import NetworkManager.Backend.Cookies
import NetworkManager.Backend.Mediation
import NetworkManager.InventoryStore.Attribution

/-!
# Accountability

A middleware gives every request two identifiers, those that its headers ask
for if they can be read, and puts them into the response.  Whatever the requests
leave in the audit trail, the outbox and the lifecycle events names these
identifiers, and the user whose session made the request.
-/

namespace NetworkManager.Backend.InventoryApi

open NetworkManager.Foundation
open NetworkManager.Domain.Inventory
open NetworkManager.InventoryStore
open NetworkManager.Security
open NetworkManager.Transaction

structure CorrelationContext where
  requestId : Uuid
  correlationId : Uuid
deriving DecidableEq, Repr

/-- `HeaderMap::insert`, which replaces all values of the name. -/
def insertHeader (headers : HeaderMap) (name : String) (value : Bytes) :
    HeaderMap :=
  ⟨(name, value) :: headers.fields.filter fun field => field.1 ≠ name⟩

def headerText (headers : HeaderMap) (name : String) : Option String :=
  (headers.get name).bind toStr

structure Response (β : Type) where
  status : Nat
  headers : HeaderMap
  body : β

/-- What the middleware inserts into the headers of a request and of its
response. -/
def CorrelationContext.mark (context : CorrelationContext)
    (headers : HeaderMap) : HeaderMap :=
  insertHeader
    (insertHeader headers "x-request-id" (utf8Bytes context.requestId.text))
    "x-correlation-id" (utf8Bytes context.correlationId.text)

section Middleware

-- `Uuid::parse_str` of another crate, which reads several forms.
variable (parseStr : String → Option Uuid)

def parseUuid (value : Option String) : Option Uuid :=
  ((value.map trim).filter fun text => !text.isEmpty).bind parseStr

/-- `CorrelationContext::new`; `fresh` has the identifiers that are generated. -/
def CorrelationContext.new (fresh : CorrelationContext)
    (requestId correlationId : Option String) : CorrelationContext :=
  ⟨(parseUuid parseStr requestId).getD fresh.requestId,
    (parseUuid parseStr correlationId).getD fresh.correlationId⟩

/-- The context that the headers of a request give. -/
def correlationOf (fresh : CorrelationContext) (headers : HeaderMap) :
    CorrelationContext :=
  CorrelationContext.new parseStr fresh (headerText headers "x-request-id")
    (headerText headers "x-correlation-id")

def correlationMiddleware {β : Type} (fresh : CorrelationContext)
    (headers : HeaderMap)
    (next : HeaderMap → CorrelationContext → Response β) : Response β :=
  let context := correlationOf parseStr fresh headers
  let response := next (context.mark headers) context
  { response with headers := context.mark response.headers }

/-- A request with its headers, and what is generated while it is handled. -/
structure Exchange where
  headers : HeaderMap
  fresh : CorrelationContext
  now : Timestamp
  denialId : Uuid
  denialUnixMs : Int
  generated : Generated

/-- What the handler of a request is given. -/
def Exchange.context (exchange : Exchange) : RequestContext :=
  let correlation := correlationOf parseStr exchange.fresh exchange.headers
  { authorization :=
      headerText (correlation.mark exchange.headers) "authorization"
    requestId := correlation.requestId
    correlationId := correlation.correlationId
    now := exchange.now
    denialId := exchange.denialId
    denialUnixMs := exchange.denialUnixMs
    generated := exchange.generated }

/-- The response to a request whose handler responds with `inner`. -/
def Exchange.respond {β : Type} (exchange : Exchange) (inner : Response β) :
    Response β :=
  correlationMiddleware parseStr exchange.fresh exchange.headers
    fun _ _ => inner

end Middleware

private theorem getAll_insertHeader (headers : HeaderMap) (name other : String)
    (value : Bytes) :
    (insertHeader headers name value).getAll other =
      if name = other then [value] else headers.getAll other := by
  rw [HeaderMap.getAll, insertHeader]
  by_cases same : name = other
  · subst same
    rw [if_pos rfl, List.filter_cons_of_pos (by simp), List.filter_filter]
    have none : (headers.fields.filter fun field =>
        decide (field.1 = name) && decide (field.1 ≠ name)) = [] := by
      simp
    rw [none]
    rfl
  · rw [if_neg same, List.filter_cons_of_neg (by simpa using same),
      List.filter_filter, HeaderMap.getAll]
    congr 1
    apply List.filter_congr
    intro field _
    by_cases isOther : field.1 = other
    · have different : field.1 ≠ name := fun isName =>
        same (isName.symm.trans isOther)
      simp [isOther, isOther ▸ different]
    · simp [isOther]

/-- The response names the two identifiers, each of them once. -/
structure Names (headers : HeaderMap) (requestId : String)
    (correlationId : Uuid) : Prop where
  request : headers.getAll "x-request-id" = [utf8Bytes requestId]
  correlation : headers.getAll "x-correlation-id" =
    [utf8Bytes correlationId.text]

private theorem names_mark
    (context : CorrelationContext) (headers : HeaderMap) :
    Names (context.mark headers) context.requestId.text
      context.correlationId := by
  constructor
  case request =>
    rw [CorrelationContext.mark, getAll_insertHeader, if_neg (by decide),
      getAll_insertHeader, if_pos rfl]
  case correlation =>
    rw [CorrelationContext.mark, getAll_insertHeader, if_pos rfl]

/-- The records of a request name a principal whose session, when the request
looked, was usable with the token of the request. -/
def RequestRecords (state : AppState) (context : RequestContext)
    (siteId : Uuid) (seen : List ApiDb) : ApiWrite → Prop
  | .inventory write => ∃ principal,
      (∃ view ∈ seen, Authenticated state.authorization context.now
        context.authorization view.authorization principal) ∧
      write.Names (mutationContext context siteId principal)
  | .administer .. => False

section Requests

variable {lower : String → String} {state : AppState}
  {context : RequestContext} {siteId : Uuid} {permission : String}
  {principal : Principal} {seen : List ApiDb} {ε δ α : Type}

private theorem RequestRecords.later {later : List ApiDb} {write : ApiWrite}
    (records : RequestRecords state context siteId seen write)
    (extended : seen <:+ later) :
    RequestRecords state context siteId later write := by
  cases write with
  | administer authorization network => exact records
  | inventory write =>
      obtain ⟨principal, ⟨view, member, isPrincipal⟩, names⟩ := records
      exact ⟨principal, ⟨view, extended.subset member, isPrincipal⟩, names⟩

/-- The principal was authenticated in a state that has been seen. -/
abbrev HasAuthenticated (state : AppState) (context : RequestContext)
    (seen : List ApiDb) (principal : Principal) : Prop :=
  ∃ view ∈ seen, Authenticated state.authorization context.now
    context.authorization view.authorization principal

/-- A program of the inventory that names the principal. -/
theorem recorded_lift {wrap : ε → δ} {program : Program inventorySql ε α}
    (isPrincipal : HasAuthenticated state context seen principal)
    (attributed : Attributed (mutationContext context siteId principal)
      program) :
    ((inventoryEmbedding lower).lift wrap program).Guarded
      (RequestRecords state context siteId) (fun _ _ => True) seen := by
  apply (inventoryEmbedding lower).guarded_lift (attributed.guarded _)
  · intro later write extended names
    obtain ⟨view, member, authenticated⟩ := isPrincipal
    exact ⟨principal, ⟨view, extended.subset member, authenticated⟩, names⟩
  · exact fun _ _ _ _ => trivial

private theorem recorded_auditDenial
    (action : String) (resourceId : Option Uuid)
    (isPrincipal : HasAuthenticated state context seen principal) :
    (auditDenial lower state context siteId principal action resourceId
      permission).Guarded (RequestRecords state context siteId)
        (fun _ _ => True) seen := by
  have names : DraftNames (mutationContext context siteId principal)
      (denialDraft context siteId principal action resourceId permission) :=
    ⟨rfl, rfl, rfl, rfl, rfl, rfl, rfl, rfl⟩
  exact (recorded_lift isPrincipal
    (auditEmbedding.runs_lift (attributed_append names))).bind
      fun _ _ _ _ => .of_pure trivial

/-- Whoever is let through, or recorded as denied, is authenticated. -/
theorem recorded_authorize (action : String) (resourceId : Option Uuid) :
    (authorize lower state context siteId permission action
      resourceId).Guarded (RequestRecords state context siteId)
        (HasAuthenticated state context) seen := by
  have authenticated : ((authorizationEmbedding lower).lift
      authorizationErrorResponse (authenticate state.authorization context.now
        context.authorization)).Guarded
      (RequestRecords state context siteId) (HasAuthenticated state context)
      seen := by
    apply (authorizationEmbedding lower).guarded_lift (guarded_authenticate _)
    · exact fun _ write => write.elim
    · rintro later principal _ ⟨view, member, isPrincipal⟩
      obtain ⟨whole, isWhole, rfl⟩ := List.mem_map.mp member
      exact ⟨whole, isWhole, isPrincipal⟩
  apply authenticated.bind
  intro later principal _ isPrincipal
  have permitted : ((authorizationEmbedding lower).lift
      (fun failure => failure) (requireSitePermission principal siteId
        permission)).Guarded (RequestRecords state context siteId)
      (fun later _ => HasAuthenticated state context later principal)
      later := by
    apply (authorizationEmbedding lower).guarded_lift
      (guarded_requireSitePermission principal _)
    · exact fun _ write => write.elim
    · intro latest _ extended _
      obtain ⟨view, member, authenticated⟩ := isPrincipal
      exact ⟨view, extended.subset member, authenticated⟩
  refine Program.Guarded.bind (permitted.handleErrors_later ?_) ?_
  · intro failure latest extended
    cases failure with
    | permissionDenied =>
        obtain ⟨view, member, authenticated⟩ := isPrincipal
        exact (recorded_auditDenial action resourceId
          ⟨view, extended.subset member, authenticated⟩).bind
            fun _ _ _ _ => .of_throw _
    | invalidSession => exact .of_throw _
    | unavailable => exact .of_throw _
  · exact fun latest _ _ stillPrincipal => .of_pure stillPrincipal

/-- A request for one device, which the inventory handles. -/
theorem recorded_deviceRequest (action : String) (resourceId : Option Uuid)
    {store : Principal → InventoryStore.Store α} {answer : α → δ}
    (attributed : ∀ principal, Attributed
      (mutationContext context siteId principal) (store principal)) :
    Program.Guarded (RequestRecords state context siteId) (fun _ _ => True)
      (do
        let principal ← authorize lower state context siteId permission action
          resourceId
        let given ← inventory lower (store principal)
        return answer given) seen := by
  apply (recorded_authorize action resourceId).bind
  intro later principal _ isPrincipal
  exact (recorded_lift isPrincipal (attributed principal)).bind
    fun _ _ _ _ => .of_pure trivial

private theorem recorded_listDevices (query : InventoryQuery) :
    (listDevices lower state context siteId query).Guarded
      (RequestRecords state context siteId) (fun _ _ => True) seen := by
  apply (recorded_authorize "inventory.device.list" none).bind
  intro later principal _ _
  refine Program.Guarded.bind
    ((guarded_list query).handleErrors fun _ _ => .of_throw _) ?_
  exact fun _ _ _ _ => .of_pure trivial

private theorem recorded_getDevice (deviceId : Uuid) :
    (getDevice lower state context siteId deviceId).Guarded
      (RequestRecords state context siteId) (fun _ _ => True) seen := by
  apply (recorded_authorize "inventory.device.get" (some deviceId)).bind
  intro later principal _ isPrincipal
  have reads : Attributed (mutationContext context siteId principal)
      (InventoryStore.get ⟨principal.organizationId, siteId⟩ deviceId) :=
    attributed_query trivial
  apply (recorded_lift isPrincipal reads).bind
  intro latest found _ _
  cases found with
  | none => exact .of_throw _
  | some device => exact .of_pure trivial

/-- Every record of a request names who made it. -/
theorem recorded_handle (request : ApiRequest) :
    (handle lower state context siteId request).Guarded
      (RequestRecords state context siteId) (fun _ _ => True) seen := by
  cases request with
  | listDevices query => exact recorded_listDevices query
  | getDevice deviceId => exact recorded_getDevice deviceId
  | createDevice input =>
      exact recorded_deviceRequest "inventory.device.create" none
        fun _ => attributed_createManual input _
  | updateDevice deviceId expectedVersion patch =>
      exact recorded_deviceRequest "inventory.device.update" (some deviceId)
        fun _ => attributed_updateMetadata deviceId expectedVersion patch
  | transitionLifecycle deviceId expectedVersion next reason =>
      exact recorded_deviceRequest "inventory.device.lifecycle.transition"
        (some deviceId) fun _ => attributed_transitionLifecycle deviceId
          expectedVersion next reason

end Requests

/-! ## Runs -/

/-- What a call may record. -/
def CallRecords (state : AppState) : ApiCall → List ApiDb → ApiWrite → Prop
  | .request context siteId _, seen, write =>
      RequestRecords state context siteId seen write
  | .observe context _ _, _, .inventory write => write.Names context
  | .observe .., _, .administer .. => False
  | .administer .., _, .inventory _ => False
  | .administer .., _, .administer .. => True

/-- Who a commit may name: the user of a session that the request was
authenticated with, or whoever submits an observation. -/
inductive CommittedBy {lower : String → String} (state : AppState)
    (commit : TaskCommit (apiClient lower state)) : MutationContext → Prop
  | request {context : RequestContext} {siteId : Uuid} {request : ApiRequest}
      {principal : Principal} :
      commit.call = .request context siteId request →
      HasAuthenticated state context commit.seen principal →
      CommittedBy state commit (mutationContext context siteId principal)
  | observe {context : MutationContext} {generated : Generated}
      {observation : DeviceObservation} :
      commit.call = .observe context generated observation →
      CommittedBy state commit context

/-- A commit has made this write, which names who has committed it. -/
def Recorded {lower : String → String} (state : AppState)
    (system : Tasks (apiClient lower state)) (write : InventoryStore.Write) :
    Prop :=
  ∃ commit ∈ system.commits, .inventory write ∈ commit.writes ∧
    ∃ caller, CommittedBy state commit caller ∧ write.Names caller

section Runs

variable {lower : String → String} {state : AppState}

private theorem CallRecords.cons {call : ApiCall} {seen : List ApiDb}
    {write : ApiWrite} (records : CallRecords state call seen write)
    (view : ApiDb) : CallRecords state call (view :: seen) write := by
  cases call with
  | request context siteId request =>
      exact RequestRecords.later records (List.suffix_cons view seen)
  | observe context generated observation => cases write <;> exact records
  | administer authorization network => cases write <;> exact records

private theorem recorded_apiClient (call : ApiCall) :
    ((apiClient lower state).program call).Guarded (CallRecords state call)
      (fun _ _ => True) [] := by
  cases call with
  | request context siteId request => exact recorded_handle request
  | observe context generated observation =>
      exact (inventoryEmbedding lower).guarded_lift
        ((attributed_reconcileObservation observation).guarded _)
        (fun _ _ _ names => names) fun _ _ _ _ => trivial
  | administer authorization network =>
      have written : (Program.statement (D := apiSql lower)
          (.administer authorization network)
          fun _ => authorizationErrorResponse .unavailable).Guarded
          (CallRecords state (.administer authorization network))
          (fun _ _ => True) [] := by
        refine .of_statement _ _ ?_ fun _ _ _ _ => trivial
        intro view reply writes answered write member
        rw [← (Prod.mk.inj (Except.ok.inj answered)).2] at member
        cases List.mem_singleton.mp member
        trivial
      exact written.bind fun _ _ _ _ => .of_commitNow _

/-- A write of a commit names who has committed it. -/
theorem CallRecords.names {commit : TaskCommit (apiClient lower state)}
    {write : InventoryStore.Write}
    (records : CallRecords state commit.call commit.seen (.inventory write)) :
    ∃ caller, CommittedBy state commit caller ∧ write.Names caller := by
  cases isCall : commit.call with
  | administer authorization network =>
      rw [isCall] at records
      exact records.elim
  | observe context generated observation =>
      rw [isCall] at records
      exact ⟨context, .observe isCall, records⟩
  | request context siteId request =>
      rw [isCall] at records
      obtain ⟨principal, isPrincipal, names⟩ := records
      exact ⟨_, .request isCall isPrincipal, names⟩

/-- What one write brings about was there at first, or a commit has made this
write. -/
theorem recorded_of_holds {holds : ApiDb → Prop}
    {added : InventoryStore.Write}
    (step : ∀ write db, holds (applyApiWrite write db) →
      holds db ∨ write = .inventory added)
    {first : ApiDb} {system : Tasks (apiClient lower state)}
    (guarded : system.Guarded (CallRecords state) (fun _ _ _ => True) first)
    (now : holds system.committed) :
    holds first ∨ Recorded state system added := by
  rcases guarded.origin step now with
    old | ⟨commit, isCommit, _, written, rfl, records⟩
  · exact Or.inl old
  · exact Or.inr ⟨commit, isCommit, written, CallRecords.names records⟩

/-- An audit event is an old one or is written. -/
theorem audit_of_apply {row : AuditStore.AuditRow} (write : ApiWrite)
    (db : ApiDb)
    (member : row ∈ (applyApiWrite write db).inventory.audit.rows) :
    row ∈ db.inventory.audit.rows ∨ write = .inventory (.audit row) := by
  cases write with
  | administer authorization network => exact Or.inl member
  | inventory write =>
      cases write with
      | audit added =>
          rcases List.mem_append.mp member with old | new
          · exact Or.inl old
          · cases List.mem_singleton.mp new
            exact Or.inr rfl
      | _ => exact Or.inl member

private theorem lifecycle_of_apply {event : LifecycleEvent} (write : ApiWrite)
    (db : ApiDb)
    (member : event ∈ (applyApiWrite write db).inventory.lifecycleEvents) :
    event ∈ db.inventory.lifecycleEvents ∨
      write = .inventory (.lifecycleEvent event) := by
  cases write with
  | administer authorization network => exact Or.inl member
  | inventory write =>
      cases write with
      | lifecycleEvent added =>
          rcases List.mem_append.mp member with old | new
          · exact Or.inl old
          · cases List.mem_singleton.mp new
            exact Or.inr rfl
      | _ => exact Or.inl member

private theorem outbox_of_apply
    {row : PlatformEvents.OutboxRow} (write : ApiWrite)
    (db : ApiDb)
    (member : row ∈ (applyApiWrite write db).inventory.outbox.events.rows) :
    row ∈ db.inventory.outbox.events.rows ∨
      write = .inventory (.outbox (.event row)) := by
  cases write with
  | administer authorization network => exact Or.inl member
  | inventory write =>
      cases write with
      | outbox written =>
          cases written with
          | delivery record => exact Or.inl member
          | event added =>
              rcases Table.mem_put.mp member with rfl | ⟨old, _⟩
              · exact Or.inr rfl
              · exact Or.inl old
      | _ => exact Or.inl member

end Runs

/-- The headers name the identifiers of a record. -/
def Echoed (headers : HeaderMap) : ApiWrite → Prop
  | .inventory (.audit row) => ∃ requestId, row.requestId = some requestId ∧
      Names headers requestId row.correlationId
  | .inventory (.outbox (.event row)) => headers.getAll "x-correlation-id" =
      [utf8Bytes row.event.correlationId.text]
  | .inventory (.lifecycleEvent event) =>
      headers.getAll "x-correlation-id" =
        [utf8Bytes event.correlationId.text]
  | _ => True

/-- Every record has been committed and names who has committed it, and the
response to a request names the identifiers in its records, whatever its handler
responds. -/
structure Accounted (parseStr : String → Option Uuid) {lower : String → String}
    (state : AppState) (first : ApiDb)
    (system : Tasks (apiClient lower state)) : Prop where
  audit : ∀ row ∈ system.committed.inventory.audit.rows,
    row ∈ first.inventory.audit.rows ∨ Recorded state system (.audit row)
  outbox : ∀ row ∈ system.committed.inventory.outbox.events.rows,
    row ∈ first.inventory.outbox.events.rows ∨
      Recorded state system (.outbox (.event row))
  lifecycle : ∀ event ∈ system.committed.inventory.lifecycleEvents,
    event ∈ first.inventory.lifecycleEvents ∨
      Recorded state system (.lifecycleEvent event)
  response : ∀ commit ∈ system.commits,
    ∀ (exchange : Exchange) (siteId : Uuid) (request : ApiRequest),
      commit.call = .request (exchange.context parseStr) siteId request →
        ∀ inner : Response (Except ApiError request.Result),
          ∀ write ∈ commit.writes,
            Echoed (exchange.respond parseStr inner).headers write

/-- However requests, observations and other writers take turns, and whatever
fails in them, every record can be traced to the user and to the response. -/
theorem run_accounted (parseStr : String → Option Uuid)
    (lower : String → String) (state : AppState) (first : ApiDb)
    (actions : List (TaskAction (apiClient lower state))) :
    Accounted parseStr state first
      ((Tasks.initial (apiClient lower state) first).run actions) := by
  have guarded : ((Tasks.initial (apiClient lower state) first).run
      actions).Guarded (CallRecords state) (fun _ _ _ => True) first :=
    (Tasks.Guarded.initial first).run
      (fun _ view _ _ records => records.cons view) recorded_apiClient actions
  constructor
  case audit =>
    intro row member
    exact @recorded_of_holds lower state
      (fun db => row ∈ db.inventory.audit.rows) _ audit_of_apply first _ guarded
      member
  case outbox =>
    intro row member
    exact @recorded_of_holds lower state
      (fun db => row ∈ db.inventory.outbox.events.rows) _ outbox_of_apply first
      _ guarded member
  case lifecycle =>
    intro event member
    exact @recorded_of_holds lower state
      (fun db => event ∈ db.inventory.lifecycleEvents) _ lifecycle_of_apply
      first _ guarded member
  case response =>
    intro commit member exchange siteId request isRequest inner write written
    have records := guarded.commits commit member write written
    rw [isRequest] at records
    have marked := names_mark (correlationOf parseStr exchange.fresh
      exchange.headers) inner.headers
    cases write with
    | administer authorization network => trivial
    | inventory write =>
        obtain ⟨principal, _, names⟩ := records
        cases write with
        | audit row =>
            refine ⟨_, names.requestId, ?_⟩
            rw [names.correlationId]
            exact marked
        | lifecycleEvent event =>
            rw [Echoed, names.correlationId]
            exact marked.correlation
        | outbox added =>
            cases added with
            | event row =>
                rw [Echoed, names.correlationId]
                exact marked.correlation
            | delivery record => exact names.elim
        | device row => trivial
        | identifier row => trivial
        | fact row => trivial

end NetworkManager.Backend.InventoryApi
