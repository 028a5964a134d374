import NetworkManager.Backend.Authenticators
import NetworkManager.Backend.InventoryApi
import NetworkManager.InventoryStore.Scoping

/-!
# Mediation

Whatever a request reads or changes belongs to the organization of the user who
makes it and to the site of its path, where that user held the permission which
the request needs.  All of it is about what the statements of the request have
seen themselves, so it holds however requests take turns with each other and
with everyone else who writes to the tables.
-/

namespace NetworkManager.Backend.InventoryApi

open NetworkManager.Foundation
open NetworkManager.Domain.Inventory
open NetworkManager.IdentityStore
open NetworkManager.InventoryStore
open NetworkManager.Security
open NetworkManager.Security.Token
open NetworkManager.Transaction

/-- The token of a request is that of a usable session of an active user. -/
def Authenticated (service : AuthorizationService) (now : Timestamp)
    (authorization : Option String) (db : AuthorizationDb)
    (principal : Principal) : Prop :=
  ∃ token claims session, bearerToken authorization = some token ∧
    decodeAccessToken service.library token service.accessKey
      (unixSeconds now) service.issuer service.audience = .ok claims ∧
    db.sessions.lookup claims.sid = some session ∧
    SessionUsable now claims session ∧ UserActive db.users session ∧
    principal = ⟨claims.sid, session.userId, session.organizationId⟩

/-- A binding of the principal to a role that holds the permission covers the
site. -/
structure BindingGrants (rbac : Rbac) (principal : Principal) (siteId : Uuid)
    (permission : String) (binding : BindingRow) : Prop where
  organization : binding.organizationId = principal.organizationId
  user : binding.userId = some principal.userId
  site : binding.siteId = none ∨ binding.siteId = some siteId
  role : ∃ role, rbac.roles.lookup binding.roleId = some role ∧
    (role.organizationId = none ∨
      role.organizationId = some principal.organizationId)
  permission : rbac.holds binding.roleId permission = true

/-- The principal holds a permission at a site of its organization. -/
structure HoldsAt (rbac : Rbac) (principal : Principal) (siteId : Uuid)
    (permission : String) : Prop where
  site : ∃ site, rbac.sites.lookup siteId = some site ∧
    site.organizationId = principal.organizationId
  binding : ∃ binding ∈ rbac.roleBindings.rows,
    BindingGrants rbac principal siteId permission binding

theorem optionAll_eq_true_iff {given : Option Uuid} {wanted : Uuid} :
    (given.all fun value => decide (value = wanted)) = true ↔
      given = none ∨ given = some wanted := by
  cases given with
  | none => simp
  | some value => simp

/-- The query asks whether the principal holds the permission at the site. -/
theorem execSelectAllowed_eq_true_iff {principal : Principal} {siteId : Uuid}
    {permission : String} {db : AuthorizationDb} :
    execSelectAllowed principal.organizationId principal.userId permission
        siteId db = true ↔
      HoldsAt db.rbac principal siteId permission := by
  constructor
  · intro allowed
    rw [execSelectAllowed, Option.any_eq_true] at allowed
    obtain ⟨site, found, sameOrganization⟩ := allowed
    have isSite : site.id = siteId := Table.key_of_lookup found
    simp only [Bool.and_eq_true, decide_eq_true_eq, List.any_eq_true,
      BindingRow.covers, optionAll_eq_true_iff] at sameOrganization
    obtain ⟨ofOrganization, binding, member,
      ⟨⟨⟨bound, isUser⟩, covers⟩, isRole⟩, held⟩ := sameOrganization
    rw [Option.any_eq_true] at isRole
    obtain ⟨role, isRole, owner⟩ := isRole
    refine ⟨⟨site, found, ofOrganization⟩, binding, member, ?_⟩
    constructor
    case organization => exact bound.trans ofOrganization
    case user => exact isUser
    case site => exact isSite ▸ covers
    case role => exact ⟨role, isRole, optionAll_eq_true_iff.mp owner⟩
    case permission => exact held
  · rintro ⟨⟨site, found, ofOrganization⟩, binding, member, grants⟩
    have isSite : site.id = siteId := Table.key_of_lookup found
    obtain ⟨role, isRole, owner⟩ := grants.role
    rw [execSelectAllowed, Option.any_eq_true]
    refine ⟨site, found, ?_⟩
    simp only [Bool.and_eq_true, decide_eq_true_eq, List.any_eq_true,
      BindingRow.covers, optionAll_eq_true_iff, Option.any_eq_true]
    refine ⟨ofOrganization, binding, member, ⟨⟨⟨?_, grants.user⟩, ?_⟩, ?_⟩,
      grants.permission⟩
    · exact grants.organization.trans ofOrganization.symm
    · exact isSite ▸ grants.site
    · exact ⟨role, isRole, owner⟩

section Authorization

variable {service : AuthorizationService} {now : Timestamp}
  {authorization : Option String} {siteId : Uuid} {permission : String}

/-- The authorization service writes nothing. -/
theorem guarded_authorizationQuery (query : AuthorizationQuery)
    {allowed : List AuthorizationDb → Empty → Prop}
    (seen : List AuthorizationDb) :
    (authorizationQuery query).Guarded allowed
      (fun (later : List AuthorizationDb) reply => ∃ view ∈ later,
        authorizationSql.exec query view = .ok (reply, [])) seen := by
  refine Program.Guarded.of_statement (D := authorizationSql) query _
    (fun _ _ _ _ write => write.elim) ?_
  intro view reply writes answered
  refine ⟨view, List.mem_cons_self .., ?_⟩
  cases writes with
  | nil => exact answered
  | cons write _ => exact write.elim

theorem guarded_authenticate (seen : List AuthorizationDb) :
    (authenticate service now authorization).Guarded (fun _ _ => True)
      (fun (later : List AuthorizationDb) principal => ∃ view ∈ later,
        Authenticated service now authorization view principal) seen := by
  apply Program.Guarded.ofExcept_bind
  intro token presented
  apply Program.Guarded.ofExcept_bind
  intro claims decoded
  apply (guarded_authorizationQuery (.selectPrincipal claims.sid) seen).bind
  rintro later row _ ⟨view, member, answered⟩
  have isRow : execSelectPrincipal claims.sid view = row :=
    (Prod.mk.inj (Except.ok.inj answered)).1
  cases row with
  | none => exact .of_throw _
  | some found =>
      obtain ⟨session, status⟩ := found
      obtain ⟨isSession, user, isUser, sameOrganization, rfl⟩ :=
        execSelectPrincipal_eq_some_iff.mp isRow
      dsimp only
      split_ifs with refused
      · exact .of_throw _
      · refine .of_pure ⟨view, member, token, claims, session, ?_, ?_,
          isSession, ?_, ⟨user, isUser, sameOrganization, ?_⟩, rfl⟩
        · cases isToken : bearerToken authorization with
          | none =>
              rw [isToken] at presented
              cases presented
          | some given =>
              rw [isToken] at presented
              cases presented
              rfl
        · cases isDecoded : decodeAccessToken service.library token
              service.accessKey (unixSeconds now) service.issuer
              service.audience with
          | error failure =>
              rw [isDecoded] at decoded
              cases decoded
          | ok given =>
              rw [isDecoded] at decoded
              cases decoded
              rfl
        · apply sessionUsable_iff.mp
          intro unusable
          apply refused
          rcases unusable with different | other | rest
          · exact Or.inl different
          · exact Or.inr (Or.inl other)
          · exact Or.inr (Or.inr (Or.inr rest))
        · by_contra notActive
          exact refused (Or.inr (Or.inr (Or.inl notActive)))

theorem guarded_requireSitePermission (principal : Principal)
    (seen : List AuthorizationDb) :
    (requireSitePermission principal siteId permission).Guarded
      (fun _ _ => True) (fun (later : List AuthorizationDb) _ =>
        ∃ view ∈ later, HoldsAt view.rbac principal siteId permission)
      seen := by
  apply Program.Guarded.check_bind
  intro _
  apply (guarded_authorizationQuery (.selectAllowed principal.organizationId
    principal.userId permission siteId) seen).bind
  rintro later allowed _ ⟨view, member, answered⟩
  have isAllowed : execSelectAllowed principal.organizationId
      principal.userId permission siteId view = allowed :=
    (Prod.mk.inj (Except.ok.inj answered)).1
  cases allowed with
  | false => exact .of_throw _
  | true =>
      exact .of_pure
        ⟨view, member, execSelectAllowed_eq_true_iff.mp isAllowed⟩

end Authorization

/-! ## What a request reads and changes -/

def ApiRequest.permission : ApiRequest → String
  | .listDevices _ => "devices.view"
  | .getDevice _ => "devices.view"
  | .createDevice _ => "devices.create"
  | .updateDevice .. => "devices.update"
  | .transitionLifecycle _ _ next _ => transitionPermission next

/-- The devices of an answer. -/
def ApiRequest.devices : (request : ApiRequest) → request.Result →
    List DeviceView
  | .listDevices _, answer => answer.body
  | .getDevice _, answer => [answer.body]
  | .createDevice _, answer => [answer.body]
  | .updateDevice .., answer => [answer.body]
  | .transitionLifecycle .., answer => [answer.body]

/-- When the request looked, it was made by the principal, and the principal
held the permission at the site. -/
structure Authorized (state : AppState) (context : RequestContext)
    (siteId : Uuid) (permission : String) (seen : List ApiDb)
    (principal : Principal) : Prop where
  authenticated : ∃ view ∈ seen, Authenticated state.authorization context.now
    context.authorization view.authorization principal
  permitted : ∃ view ∈ seen,
    HoldsAt view.authorization.rbac principal siteId permission

/-- The scope of a path, for a principal. -/
def scopeAt (principal : Principal) (siteId : Uuid) : Scope :=
  ⟨principal.organizationId, siteId⟩

/-- The writes of a request: records of what it did, and writes about the scope
of a principal who is allowed to make it. -/
def RequestWrites (state : AppState) (context : RequestContext)
    (siteId : Uuid) (request : ApiRequest) (seen : List ApiDb) :
    ApiWrite → Prop
  | .inventory write => write.IsRecord ∨ ∃ principal,
      Authorized state context siteId request.permission seen principal ∧
        Scoped (mutationContext context siteId principal)
          (request.permission = "devices.approve" ∨
            state.inventoryRequireApproval = false)
          (seen.map ApiDb.inventory) write
  | .administer .. => False

/-- The answer to a request: devices that were there, of the scope of a
principal who is allowed to make it. -/
def RequestReturns (state : AppState) (context : RequestContext)
    (siteId : Uuid) (request : ApiRequest) (seen : List ApiDb)
    (answer : request.Result) : Prop :=
  ∃ principal,
    Authorized state context siteId request.permission seen principal ∧
      ∀ device ∈ request.devices answer,
        device.scope = scopeAt principal siteId ∧
          ∃ view ∈ seen, device ∈ view.inventory.devices.rows

section Requests

variable {lower : String → String} {state : AppState}
  {context : RequestContext} {siteId : Uuid} {permission : String}
  {principal : Principal} {seen : List ApiDb}

private theorem Authorized.later {later : List ApiDb}
    (authorized : Authorized state context siteId permission seen principal)
    (extended : seen <:+ later) :
    Authorized state context siteId permission later principal := by
  obtain ⟨⟨first, isFirst, authenticated⟩, second, isSecond, permitted⟩ :=
    authorized
  exact ⟨⟨first, extended.subset isFirst, authenticated⟩, second,
    extended.subset isSecond, permitted⟩

private theorem RequestWrites.later {request : ApiRequest} {later : List ApiDb}
    {write : ApiWrite}
    (writes : RequestWrites state context siteId request seen write)
    (extended : seen <:+ later) :
    RequestWrites state context siteId request later write := by
  cases write with
  | administer authorization network => exact writes
  | inventory write =>
      rcases writes with isRecord | ⟨principal, authorized, kept⟩
      · exact Or.inl isRecord
      · exact Or.inr ⟨principal, authorized.later extended,
          kept.later (extended.map _)⟩

private theorem guarded_auditDenial {request : ApiRequest} (action : String)
    (resourceId : Option Uuid) :
    (auditDenial lower state context siteId principal action resourceId
      permission).Guarded (RequestWrites state context siteId request)
        (fun _ _ => True) seen := by
  have appended : (auditEmbedding.lift (fun failure => failure)
      (AuditStore.append state.inventory.audit context.denialId
        (denialDraft context siteId principal action resourceId
          permission))).Guarded
      (fun _ (write : InventoryStore.Write) => write.IsRecord) (fun _ _ => True)
        (seen.map ApiDb.inventory) :=
    auditEmbedding.guarded_lift (Program.guarded_any _ _)
      (fun _ _ _ _ => trivial) fun _ _ _ _ => trivial
  exact ((inventoryEmbedding lower).guarded_lift appended
    (fun _ _ _ isRecord => Or.inl isRecord) fun _ _ _ _ => trivial).bind
      fun _ _ _ _ => .of_pure trivial

/-- Whoever is let through is allowed to make the request. -/
theorem guarded_authorize {request : ApiRequest} (action : String)
    (resourceId : Option Uuid) :
    (authorize lower state context siteId permission action
      resourceId).Guarded (RequestWrites state context siteId request)
        (fun later principal =>
          Authorized state context siteId permission later principal)
        seen := by
  have authenticated : ((authorizationEmbedding lower).lift
      authorizationErrorResponse (authenticate state.authorization context.now
        context.authorization)).Guarded
      (RequestWrites state context siteId request)
      (fun (later : List ApiDb) principal => ∃ view ∈ later,
        Authenticated state.authorization context.now context.authorization
          view.authorization principal) seen := by
    apply (authorizationEmbedding lower).guarded_lift (guarded_authenticate _)
    · exact fun _ write => write.elim
    · rintro later principal _ ⟨view, member, isPrincipal⟩
      obtain ⟨whole, isWhole, rfl⟩ := List.mem_map.mp member
      exact ⟨whole, isWhole, isPrincipal⟩
  apply authenticated.bind
  rintro later principal extended ⟨first, isFirst, isPrincipal⟩
  have permitted : ((authorizationEmbedding lower).lift
      (fun failure => failure) (requireSitePermission principal siteId
        permission)).Guarded
      (RequestWrites state context siteId request)
      (fun (later : List ApiDb) _ => ∃ view ∈ later,
        HoldsAt view.authorization.rbac principal siteId permission) later := by
    apply (authorizationEmbedding lower).guarded_lift
      (guarded_requireSitePermission principal _)
    · exact fun _ write => write.elim
    · rintro latest _ _ ⟨view, member, held⟩
      obtain ⟨whole, isWhole, rfl⟩ := List.mem_map.mp member
      exact ⟨whole, isWhole, held⟩
  refine Program.Guarded.bind (permitted.handleErrors ?_) ?_
  · intro failure latest
    cases failure with
    | permissionDenied =>
        exact (guarded_auditDenial action resourceId).bind
          fun _ _ _ _ => .of_throw _
    | invalidSession => exact .of_throw _
    | unavailable => exact .of_throw _
  · intro latest _ further held
    exact .of_pure ⟨⟨first, further.subset isFirst, isPrincipal⟩, held⟩

/-- What an operation of the inventory does for an authorized principal. -/
theorem guarded_inventory {request : ApiRequest}
    {store : InventoryStore.Store DeviceView}
    (authorized : Authorized state context siteId request.permission seen
      principal)
    (guarded : store.Guarded
      (Scoped (mutationContext context siteId principal)
        (request.permission = "devices.approve" ∨
          state.inventoryRequireApproval = false))
      (Returns (mutationContext context siteId principal))
      (seen.map ApiDb.inventory)) :
    (inventory lower store).Guarded (RequestWrites state context siteId request)
      (fun (later : List ApiDb) device =>
        Authorized state context siteId request.permission later principal ∧
          device.scope = scopeAt principal siteId ∧
          ∃ view ∈ later, device ∈ view.inventory.devices.rows) seen := by
  apply (inventoryEmbedding lower).guarded_lift guarded
  · intro later write extended kept
    exact Or.inr ⟨principal, authorized.later extended, kept⟩
  · rintro later device extended ⟨view, member, found⟩
    obtain ⟨whole, isWhole, rfl⟩ := List.mem_map.mp member
    obtain ⟨stored, inScope⟩ := deviceIn_eq_some_iff.mp found
    exact ⟨authorized.later extended, inScope, whole, isWhole,
      Table.mem_of_lookup stored⟩

/-- A request for one device, which is answered with what the inventory
returns. -/
theorem guarded_deviceRequest {request : ApiRequest} (action : String)
    (resourceId : Option Uuid) {status : Nat}
    {store : Principal → InventoryStore.Store DeviceView}
    {returns : List ApiDb → ApiAnswer DeviceView → Prop}
    (guarded : ∀ principal seen, (store principal).Guarded
      (Scoped (mutationContext context siteId principal)
        (request.permission = "devices.approve" ∨
          state.inventoryRequireApproval = false))
      (Returns (mutationContext context siteId principal)) seen)
    (ends : ∀ later device principal,
      Authorized state context siteId request.permission later principal →
      device.scope = scopeAt principal siteId →
      (∃ view ∈ later, device ∈ view.inventory.devices.rows) →
      returns later ⟨status, device⟩) :
    Program.Guarded (RequestWrites state context siteId request) returns
      (do
        let principal ← authorize lower state context siteId
          request.permission action resourceId
        let device ← inventory lower (store principal)
        return ⟨status, device⟩) seen := by
  apply (guarded_authorize action resourceId).bind
  intro later principal _ authorized
  apply (guarded_inventory authorized (guarded principal _)).bind
  rintro latest device _ ⟨stillAuthorized, inScope, listed⟩
  exact .of_pure (ends latest device principal stillAuthorized inScope listed)

private theorem requestReturns_device {request : ApiRequest}
    {answer : request.Result} {device : DeviceView}
    (only : request.devices answer = [device])
    (authorized : Authorized state context siteId request.permission seen
      principal)
    (inScope : device.scope = scopeAt principal siteId)
    (listed : ∃ view ∈ seen, device ∈ view.inventory.devices.rows) :
    RequestReturns state context siteId request seen answer := by
  refine ⟨principal, authorized, ?_⟩
  intro other member
  rw [only] at member
  cases List.mem_singleton.mp member
  exact ⟨inScope, listed⟩

theorem guarded_list {scope : Scope} (query : InventoryQuery)
    {allowed : List ApiDb → ApiWrite → Prop} :
    (list lower scope query).Guarded allowed
      (fun (later : List ApiDb) devices => ∃ view ∈ later, ∀ device ∈ devices,
        device ∈ view.inventory.devices.rows ∧ device.scope = scope) seen := by
  apply Program.Guarded.ofExcept_bind
  intro _ _
  apply Program.Guarded.of_statement (D := apiSql lower)
    (.selectDevices scope query)
  · intro view reply writes answered write member
    rw [← (Prod.mk.inj (Except.ok.inj answered)).2] at member
    cases member
  · intro view reply writes answered
    refine ⟨view, List.mem_cons_self .., ?_⟩
    intro device member
    rw [← (Prod.mk.inj (Except.ok.inj answered)).1] at member
    exact mem_execSelectDevices member

private theorem guarded_listDevices (query : InventoryQuery) :
    (listDevices lower state context siteId query).Guarded
      (RequestWrites state context siteId (.listDevices query))
      (RequestReturns state context siteId (.listDevices query)) seen := by
  apply (guarded_authorize "inventory.device.list" none).bind
  intro later principal _ authorized
  refine Program.Guarded.bind
    ((guarded_list query).handleErrors fun _ _ => .of_throw _) ?_
  rintro latest devices extended ⟨view, member, listed⟩
  refine .of_pure ⟨principal, authorized.later extended, ?_⟩
  intro device isDevice
  obtain ⟨isRow, inScope⟩ := listed device isDevice
  exact ⟨inScope, view, member, isRow⟩

private theorem guarded_getDevice (deviceId : Uuid) :
    (getDevice lower state context siteId deviceId).Guarded
      (RequestWrites state context siteId (.getDevice deviceId))
      (RequestReturns state context siteId (.getDevice deviceId)) seen := by
  apply (guarded_authorize "inventory.device.get" (some deviceId)).bind
  intro later principal _ authorized
  have found : (inventory lower (InventoryStore.get
      (scopeAt principal siteId) deviceId)).Guarded
      (RequestWrites state context siteId (.getDevice deviceId))
      (fun (latest : List ApiDb) found => ∃ view ∈ latest,
        view.inventory.deviceIn (scopeAt principal siteId) deviceId = found)
      later := by
    have reads : (InventoryStore.get (scopeAt principal siteId)
        deviceId).Guarded (fun _ _ => False)
          (fun (latest : List InventoryDb) found => ∃ view ∈ latest,
            view.deviceIn (scopeAt principal siteId) deviceId = found)
          (later.map ApiDb.inventory) := permitted_selectDevice false
    apply (inventoryEmbedding lower).guarded_lift reads
    · intro latest write _ kept
      exact kept.elim
    · rintro latest given _ ⟨view, member, isFound⟩
      obtain ⟨whole, isWhole, rfl⟩ := List.mem_map.mp member
      exact ⟨whole, isWhole, isFound⟩
  apply found.bind
  rintro latest given extended ⟨view, member, isFound⟩
  cases given with
  | none => exact .of_throw _
  | some device =>
      obtain ⟨stored, inScope⟩ := deviceIn_eq_some_iff.mp isFound
      exact .of_pure (requestReturns_device rfl (authorized.later extended)
        inScope ⟨view, member, Table.mem_of_lookup stored⟩)

/-- Every request writes and returns only what it may. -/
theorem guarded_handle (request : ApiRequest) :
    (handle lower state context siteId request).Guarded
      (RequestWrites state context siteId request)
      (RequestReturns state context siteId request) seen := by
  cases request with
  | listDevices query => exact guarded_listDevices query
  | getDevice deviceId => exact guarded_getDevice deviceId
  | createDevice input =>
      apply guarded_deviceRequest "inventory.device.create" none
      · intro principal later
        exact permitted_createManual input _ Or.inr
      · intro later device principal
        exact requestReturns_device rfl
  | updateDevice deviceId expectedVersion patch =>
      apply guarded_deviceRequest "inventory.device.update" (some deviceId)
      · intro principal later
        exact permitted_updateMetadata deviceId expectedVersion patch
      · intro later device principal
        exact requestReturns_device rfl
  | transitionLifecycle deviceId expectedVersion next reason =>
      apply guarded_deviceRequest "inventory.device.lifecycle.transition"
        (some deviceId)
      · intro principal later
        apply permitted_transitionLifecycle
        rintro rfl
        exact Or.inl rfl
      · intro later device principal
        exact requestReturns_device rfl

end Requests

/-- What any call may write: a request as above, an observation nothing that
makes a device managed, and the others only the tables that the API reads. -/
def CallWrites (state : AppState) : ApiCall → List ApiDb → ApiWrite → Prop
  | .request context siteId request, seen, write =>
      RequestWrites state context siteId request seen write
  | .observe .., _, .inventory write => ApprovesNothing write
  | .observe .., _, .administer .. => False
  | .administer .., _, .inventory _ => False
  | .administer .., _, .administer .. => True

def CallReturns (state : AppState) :
    (call : ApiCall) → List ApiDb → call.Result → Prop
  | .request context siteId request, seen, answer =>
      RequestReturns state context siteId request seen answer
  | .observe .., _, _ => True
  | .administer .., _, _ => True

section Runs

variable {lower : String → String} {state : AppState}

private theorem CallWrites.cons {call : ApiCall} {seen : List ApiDb}
    {write : ApiWrite} (writes : CallWrites state call seen write)
    (view : ApiDb) : CallWrites state call (view :: seen) write := by
  cases call with
  | request context siteId request =>
      exact RequestWrites.later writes (List.suffix_cons view seen)
  | observe context generated observation => cases write <;> exact writes
  | administer authorization network => cases write <;> exact writes

private theorem guarded_apiClient (call : ApiCall) :
    ((apiClient lower state).program call).Guarded (CallWrites state call)
      (CallReturns state call) [] := by
  cases call with
  | request context siteId request => exact guarded_handle request
  | observe context generated observation =>
      simp only [apiClient]
      exact (inventoryEmbedding lower).guarded_lift
        (permitted_reconcileObservation observation)
        (fun _ _ _ kept => kept) fun _ _ _ _ => trivial
  | administer authorization network =>
      have written : (Program.statement (D := apiSql lower)
          (.administer authorization network)
          fun _ => authorizationErrorResponse .unavailable).Guarded
          (CallWrites state (.administer authorization network))
          (fun _ _ => True) [] := by
        refine .of_statement _ _ ?_ fun _ _ _ _ => trivial
        intro view reply writes answered write member
        rw [← (Prod.mk.inj (Except.ok.inj answered)).2] at member
        cases List.mem_singleton.mp member
        trivial
      exact written.bind fun _ _ _ _ => .of_commitNow _

/-- An event is an old one or has been written. -/
theorem mem_lifecycleEvents_applyAll {event : LifecycleEvent}
    {writes : List ApiWrite} {db : ApiDb}
    (member : event ∈ ((apiSql lower).applyAll writes
      db).inventory.lifecycleEvents) :
    event ∈ db.inventory.lifecycleEvents ∨
      ApiWrite.inventory (.lifecycleEvent event) ∈ writes := by
  induction writes generalizing db with
  | nil => exact Or.inl member
  | cons write rest inductionHypothesis =>
      rcases inductionHypothesis member with before | later
      · cases write with
        | administer authorization network => exact Or.inl before
        | inventory write =>
            cases write with
            | lifecycleEvent added =>
                rcases List.mem_append.mp before with old | new
                · exact Or.inl old
                · cases List.mem_singleton.mp new
                  exact Or.inr (List.mem_cons_self ..)
            | _ => exact Or.inl before
      · exact Or.inr (List.mem_cons_of_mem write later)

end Runs

/-- In the states that have been seen by a task or a commit, its request was
made by a principal who was allowed to make it, and all that it returns or
changes is of the scope of that principal and its path. -/
structure Mediated {lower : String → String} (state : AppState)
    (first : ApiDb) (system : Tasks (apiClient lower state)) : Prop where
  returned : ∀ context siteId request (answer : request.Result) pending seen,
    ⟨.request context siteId request, .done (.ok answer), pending, seen⟩ ∈
        system.tasks →
      RequestReturns state context siteId request seen answer
  changed : ∀ commit ∈ system.commits, ∀ context siteId request,
    commit.call = .request context siteId request →
      ∀ write ∈ commit.writes,
        RequestWrites state context siteId request commit.seen write
  approved : state.inventoryRequireApproval = true →
    ∀ event ∈ system.committed.inventory.lifecycleEvents,
      event.toState = .managed →
      event ∈ first.inventory.lifecycleEvents ∨
        ∃ commit ∈ system.commits, ∃ context siteId request principal,
          commit.call = .request context siteId request ∧
          .inventory (.lifecycleEvent event) ∈ commit.writes ∧
          Authorized state context siteId "devices.approve" commit.seen
            principal ∧
          event.scope = scopeAt principal siteId ∧
          event.actorType = .user ∧ event.actorId = some principal.userId

end NetworkManager.Backend.InventoryApi
