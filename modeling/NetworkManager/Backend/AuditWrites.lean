import NetworkManager.AuditStore.Sealing
import NetworkManager.Backend.Bootstrap
import NetworkManager.Backend.InventoryApi
import NetworkManager.InventoryStore.AuditTrail
import NetworkManager.Security.TokenRoundTrip
import NetworkManager.Transaction.Runs

/-!
# Everything that writes to the audit trail

Requests, observations and direct appends insert sealed rows.  The start of a
back-end inserts a row of its own, past the audit store, and that row is not
sealed: the migration that introduced the chains kept the rows from before it
as they were, and this insertion with them.
-/

namespace NetworkManager.Backend.AuditWrites

open NetworkManager.AuditStore
open NetworkManager.Backend.InventoryApi
open NetworkManager.Foundation
open NetworkManager.InventoryStore (inventorySql auditEmbedding OnTrail
  KeptByAppends)
open NetworkManager.Security
open NetworkManager.Transaction

/-- The tables of the API, with the audit trail, and those of a bootstrap.
What a bootstrap changes for the authorization of requests is among the writes
of others that the API knows. -/
structure ProgramDb where
  api : ApiDb
  bootstrap : Bootstrap.Db

def ProgramDb.audit (db : ProgramDb) : AuditDb := db.api.inventory.audit

/-- The row that a bootstrap inserts.  Its identifier is a default of the
table, and the sealed columns are left out. -/
def bootstrapRow (id : Uuid) (row : Bootstrap.AuditEventRow) : AuditRow where
  id
  organizationId := row.organizationId
  siteId := none
  actorType := .system
  actorId := none
  sessionId := none
  sourceIp := none
  requestId := none
  action := row.action
  resourceType := row.resourceType
  resourceId := some row.resourceId.text
  correlationId := row.correlationId
  provider := none
  status := .succeeded
  durationMs := none
  reasonCode := some row.reasonCode
  beforeState := none
  afterState := none
  result := .object [("outcome", .string "ensured")]
  occurredAtUnixMs := none
  sealedColumns := none

inductive ProgramStatement where
  | api (statement : ApiStatement)
  /-- A statement of a bootstrap, with the identifier of its audit row. -/
  | bootstrap (auditId : Uuid) (statement : Bootstrap.Statement)

abbrev ProgramReply : ProgramStatement → Type
  | .api statement => ApiReply statement
  | .bootstrap _ statement => Bootstrap.Reply statement

inductive ProgramWrite where
  | api (write : ApiWrite)
  | bootstrap (write : Bootstrap.Write)

def applyProgramWrite : ProgramWrite → ProgramDb → ProgramDb
  | .api write, db => { db with api := applyApiWrite write db.api }
  | .bootstrap write, db =>
      { db with bootstrap := Bootstrap.applyWrite write db.bootstrap }

/-- The audit events of a bootstrap go to the one table of audit events. -/
def execBootstrap (catalog : Bootstrap.Catalog) (auditId : Uuid)
    (statement : Bootstrap.Statement) (db : ProgramDb) :
    Except SqlError (Bootstrap.Reply statement × List ProgramWrite) :=
  match statement with
  | .insertAuditEvent row =>
      liftAnswer id id (fun written => .api (.inventory (.audit written)))
        (execInsertEvent (bootstrapRow auditId row) db.audit)
  | other =>
      liftAnswer id id .bootstrap
        ((Bootstrap.bootstrapSql catalog).exec other db.bootstrap)

/-- The database of the program. -/
abbrev programSql (lower : String → String) (catalog : Bootstrap.Catalog) :
    Database where
  Statement := ProgramStatement
  Reply := ProgramReply
  Fault := SqlError
  State := ProgramDb
  Write := ProgramWrite
  apply := applyProgramWrite
  exec
    | .api statement, db =>
        liftAnswer id id .api ((apiSql lower).exec statement db.api)
    | .bootstrap auditId statement, db =>
        execBootstrap catalog auditId statement db

def apiEmbedding (lower : String → String) (catalog : Bootstrap.Catalog) :
    Embedding (apiSql lower) (programSql lower catalog) where
  component db := db.api
  replace part db := { db with api := part }
  statement := .api
  reply := id
  toReply := id
  fault := id
  toFault := id
  toWrite := .api
  reply_toReply _ := rfl
  fault_toFault _ := rfl
  component_replace _ _ := rfl
  replace_component _ := rfl
  replace_replace _ _ _ := rfl
  exec_eq _ _ := rfl
  apply_eq _ _ := rfl

/-! ## Calls -/

inductive ProgramError where
  | api (failure : ApiError)
  | audit (failure : AuditStoreError)
  | bootstrap (failure : Bootstrap.BootstrapError)

/-- The configuration of a back-end. -/
structure Setup where
  lower : String → String
  state : AppState
  service : Bootstrap.Service

def Setup.audit (setup : Setup) : AuditLibrary :=
  setup.state.inventory.audit

/-- A program of the back-end. -/
abbrev ProgramOf (setup : Setup) (α : Type) : Type :=
  Program (programSql setup.lower setup.service.catalog) ProgramError α

/-- Run a program of a bootstrap among the others. -/
def inProgram {α : Type} (setup : Setup) (auditId : Uuid) :
    Bootstrap.Store setup.service α → ProgramOf setup α
  | .done (.ok value) => .done (.ok value)
  | .done (.error failure) => .done (.error (.bootstrap failure))
  | .exec query onFault next =>
      .exec (D := programSql setup.lower setup.service.catalog)
        (.bootstrap auditId query) (fun fault => .bootstrap (onFault fault))
        fun reply => inProgram setup auditId (next reply)
  | .commit onFault next =>
      .commit (fun fault => .bootstrap (onFault fault))
        (inProgram setup auditId next)

/-- An append that is no part of a request. -/
def appendDirectly (setup : Setup) (append : Append) : ProgramOf setup Uuid :=
  (apiEmbedding setup.lower setup.service.catalog).lift .audit
    ((inventoryEmbedding setup.lower).lift (fun failure => failure)
      (auditEmbedding.lift (fun failure => failure)
        (AuditStore.append setup.state.inventory.audit append.id
          append.draft)))

/-- What the program does: answer a request or take an observation, append to
the audit trail directly, and ensure an administrator when it starts. -/
inductive ProgramCall where
  | api (call : ApiCall)
  | append (append : Append)
  | bootstrap (call : Bootstrap.Call) (auditId : Uuid)

abbrev ProgramCall.Result : ProgramCall → Type
  | .api call => call.Result
  | .append _ => Uuid
  | .bootstrap .. => Unit

def programClient (setup : Setup) :
    Client (programSql setup.lower setup.service.catalog) ProgramError where
  Call := ProgramCall
  Result := ProgramCall.Result
  program
    | .api call =>
        (apiEmbedding setup.lower setup.service.catalog).lift .api
          ((apiClient setup.lower setup.state).program call)
    | .append append => appendDirectly setup append
    | .bootstrap call auditId =>
        inProgram setup auditId (Bootstrap.bootstrapAdmin setup.service call)

section Calls

variable {lower : String → String} {state : AppState}
  {context : RequestContext} {siteId : Uuid} {trail : AuditDb → Prop}
  {working : ApiDb}

def OnApi (trail : AuditDb → Prop) (db : ApiDb) : Prop :=
  OnTrail trail db.inventory

/-- An append in a transaction of its own. -/
theorem preserves_liftedAppend
    (appends : KeptByAppends state.inventory.audit trail) {ε : Type}
    {wrap : AuditStoreError → ε} (id : Uuid) (draft : AuditEventDraft)
    (kept : OnApi trail working) :
    ((inventoryEmbedding lower).lift wrap
      (auditEmbedding.lift (fun failure => failure)
        (AuditStore.append state.inventory.audit id draft))).Preserves
          (OnApi trail) working := by
  have inInventory : (auditEmbedding.lift (fun failure => failure)
      (AuditStore.append state.inventory.audit id draft)).Preserves
        (OnTrail trail) working.inventory :=
    auditEmbedding.preserves_lift (appends.append id draft kept)
      fun _ isKept => isKept
  exact (inventoryEmbedding lower).preserves_lift inInventory
    fun _ isKept => isKept

private theorem preserves_auditDenial
    (appends : KeptByAppends state.inventory.audit trail)
    {principal : Principal} {action permission : String}
    {resourceId : Option Uuid} (kept : OnApi trail working) :
    (auditDenial lower state context siteId principal action resourceId
      permission).Preserves (OnApi trail) working :=
  (preserves_liftedAppend appends _ _ kept).bind
    fun _ _ stillKept => .done stillKept

private theorem preserves_authorize
    (appends : KeptByAppends state.inventory.audit
      trail) {action permission : String} {resourceId : Option Uuid}
    (kept : OnApi trail working) :
    (authorize lower state context siteId permission action
      resourceId).Preserves (OnApi trail) working := by
  have authenticates : ((authorizationEmbedding lower).lift
      authorizationErrorResponse (authenticate state.authorization context.now
        context.authorization)).Preserves (OnApi trail) working :=
    (authorizationEmbedding lower).preserves_lift (Program.preserves_any _ _)
      fun _ _ => kept
  apply authenticates.bind
  intro principal authenticated stillKept
  have requires : ((authorizationEmbedding lower).lift (fun failure => failure)
      (requireSitePermission principal siteId permission)).Preserves
        (OnApi trail) authenticated :=
    (authorizationEmbedding lower).preserves_lift (Program.preserves_any _ _)
      fun _ _ => stillKept
  refine Program.Preserves.bind (requires.handleErrors ?_)
    fun _ _ allowedKept => .done allowedKept
  intro failure denied deniedKept
  cases failure with
  | permissionDenied =>
      exact (preserves_auditDenial appends deniedKept).bind
        fun _ _ recordedKept => .done recordedKept
  | invalidSession => exact .done deniedKept
  | unavailable => exact .done deniedKept

/-- A request that the inventory answers. -/
theorem preserves_inventoryRequest
    (appends : KeptByAppends state.inventory.audit trail)
    {action permission : String} {resourceId : Option Uuid} {α β : Type}
    {store : Principal → InventoryStore.Store α}
    {answer : α → Api lower β}
    (preserves : ∀ principal reached, OnTrail trail reached →
      (store principal).Preserves (OnTrail trail) reached)
    (answers : ∀ result reached, OnApi trail reached →
      (answer result).Preserves (OnApi trail) reached)
    (kept : OnApi trail working) :
    Program.Preserves (OnApi trail)
      (do
        let principal ← authorize lower state context siteId permission action
          resourceId
        let result ← inventory lower (store principal)
        answer result) working := by
  apply (preserves_authorize appends kept).bind
  intro principal authorized authorizedKept
  have inInventory : (inventory lower (store principal)).Preserves
      (OnApi trail) authorized :=
    (inventoryEmbedding lower).preserves_lift
      (preserves principal authorized.inventory authorizedKept)
      fun _ isKept => isKept
  exact inInventory.bind answers

private theorem preserves_handle
    (appends : KeptByAppends state.inventory.audit trail)
    (request : ApiRequest) (kept : OnApi trail working) :
    (handle lower state context siteId request).Preserves (OnApi trail)
      working := by
  cases request with
  | listDevices query =>
      apply (preserves_authorize appends kept).bind
      intro principal authorized authorizedKept
      have lists : (list lower ⟨principal.organizationId, siteId⟩
          query).Preserves (OnApi trail) authorized := by
        apply Program.Preserves.ofExcept_bind authorizedKept
        intro _ _
        apply Program.Preserves.of_statement (D := apiSql lower)
        intro reply writes answered
        cases answered
        exact authorizedKept
      exact (lists.handleErrors fun _ _ stillKept => .done stillKept).bind
        fun _ _ stillKept => .done stillKept
  | getDevice deviceId =>
      apply preserves_inventoryRequest appends _ _ kept
      · intro principal reached reachedKept
        exact InventoryStore.preserves_query id reachedKept
      · intro found reached reachedKept
        cases found with
        | some device => exact .done reachedKept
        | none => exact .done reachedKept
  | createDevice input =>
      apply preserves_inventoryRequest appends _ _ kept
      · intro principal reached reachedKept
        exact InventoryStore.preserves_createManual appends _ _ reachedKept
      · exact fun _ _ reachedKept => .done reachedKept
  | updateDevice deviceId expectedVersion patch =>
      apply preserves_inventoryRequest appends _ _ kept
      · intro principal reached reachedKept
        exact InventoryStore.preserves_updateMetadata appends _ _ _ reachedKept
      · exact fun _ _ reachedKept => .done reachedKept
  | transitionLifecycle deviceId expectedVersion next reason =>
      apply preserves_inventoryRequest appends _ _ kept
      · intro principal reached reachedKept
        exact InventoryStore.preserves_transitionLifecycle appends _ _ _ _
          reachedKept
      · exact fun _ _ reachedKept => .done reachedKept

private theorem preserves_apiClient
    (appends : KeptByAppends state.inventory.audit trail) (call : ApiCall)
    (kept : OnApi trail working) :
    ((apiClient lower state).program call).Preserves (OnApi trail)
      working := by
  cases call with
  | request context siteId request =>
      exact preserves_handle appends request kept
  | observe context generated observation =>
      simp only [apiClient]
      exact (inventoryEmbedding lower).preserves_lift
        (InventoryStore.preserves_reconcileObservation appends _ kept)
        fun _ isKept => isKept
  | administer authorization network =>
      refine .exec fun reply writes answered => ?_
      cases answered
      exact .commit kept (.done kept)

end Calls

section Runs

variable {setup : Setup}

private theorem commitsLast_bootstrapAdmin (service : Bootstrap.Service)
    (call : Bootstrap.Call) :
    (Bootstrap.bootstrapAdmin service call).CommitsLast := by
  apply (Program.commitFree_check _ _).bind_commitsLast
  intro _
  apply (Program.commitFree_ofExcept _).bind_commitsLast
  intro encoded
  refine .exec fun organization => ?_
  cases organization with
  | none => exact .done _
  | some organizationId =>
      refine .exec fun userId => .exec fun roleId => .exec fun _ =>
        .exec fun _ => .exec fun _ => ?_
      exact .commit _ ()

private theorem commitsLast_inProgram {auditId : Uuid} {α : Type}
    {program : Bootstrap.Store setup.service α}
    (commitsLast : program.CommitsLast) :
    (inProgram setup auditId program).CommitsLast := by
  induction commitsLast with
  | done outcome =>
      cases outcome with
      | error failure => exact .done _
      | ok value => exact .done _
  | exec _ inductionHypothesis => exact .exec inductionHypothesis
  | commit onFault value => exact .commit _ value

def OnProgram (trail : AuditDb → Prop) (db : ProgramDb) : Prop :=
  OnApi trail db.api

/-- The call is no start of a back-end, or one whose transaction is not
committed. -/
def LeavesNoBootstrap (setup : Setup) (db : ProgramDb)
    (attempt : (programClient setup).Attempt) : Prop :=
  ∀ call auditId, attempt.1 = .bootstrap call auditId →
    ¬ (programClient setup).Succeeds db attempt

private theorem preserves_appendDirectly {trail : AuditDb → Prop}
    (appends : KeptByAppends setup.audit trail) {working : ProgramDb}
    (kept : OnProgram trail working) (append : Append) :
    (appendDirectly setup append).Preserves (OnProgram trail) working :=
  (apiEmbedding setup.lower setup.service.catalog).preserves_lift
    (@preserves_liftedAppend setup.lower setup.state trail working.api appends
      _ (fun failure => failure) append.id append.draft kept)
    fun _ isKept => isKept

/-- Every call but the start of a back-end preserves what appends preserve. -/
theorem preserves_programClient {trail : AuditDb → Prop}
    (appends : KeptByAppends setup.audit trail) {working : ProgramDb}
    (kept : OnProgram trail working) (call : ProgramCall)
    (noBootstrap : ∀ given auditId, call ≠ .bootstrap given auditId) :
    ((programClient setup).program call).Preserves (OnProgram trail)
      working := by
  cases call with
  | api call =>
      exact (apiEmbedding setup.lower setup.service.catalog).preserves_lift
        (preserves_apiClient appends call kept) fun _ isKept => isKept
  | append append =>
      simp only [programClient]
      exact preserves_appendDirectly appends kept append
  | bootstrap call auditId => exact (noBootstrap call auditId rfl).elim

private theorem kept_after {trail : AuditDb → Prop}
    (appends : KeptByAppends setup.audit trail) {db : ProgramDb}
    {attempt : (programClient setup).Attempt}
    (leaves : LeavesNoBootstrap setup db attempt) (kept : OnProgram trail db) :
    OnProgram trail ((programClient setup).after db attempt) := by
  obtain ⟨call, plan⟩ := attempt
  by_cases isBootstrap : ∃ given auditId, call = .bootstrap given auditId
  · obtain ⟨given, auditId, rfl⟩ := isBootstrap
    have commitsLast := @commitsLast_inProgram setup auditId _ _
      (commitsLast_bootstrapAdmin setup.service given)
    have unchanged := @Client.after_eq_of_not_succeeds _ _ (programClient setup)
      db (.bootstrap given auditId, plan) commitsLast (leaves given auditId rfl)
    rw [unchanged]
    exact kept
  · have preserves := preserves_programClient appends kept call
      fun given auditId same => isBootstrap ⟨given, auditId, same⟩
    exact preserves.commitsOnly.callFaulty plan kept

private theorem eval_inProgram_bind_eq_ok {auditId : Uuid} {α β : Type}
    {program : Bootstrap.Store setup.service α}
    {next : α → Bootstrap.Store setup.service β}
    {connection reached :
      Connection (programSql setup.lower setup.service.catalog)} {value : β}
    (ended : (inProgram setup auditId (program >>= next)).eval connection =
      (.ok value, reached)) :
    ∃ first middle, (inProgram setup auditId program).eval connection =
        (.ok first, middle) ∧
      (inProgram setup auditId (next first)).eval middle =
        (.ok value, reached) := by
  have split : inProgram setup auditId (program >>= next) =
      inProgram setup auditId program >>= fun first =>
        inProgram setup auditId (next first) := by
    clear ended
    induction program with
    | done outcome => cases outcome <;> rfl
    | exec query onFault rest inductionHypothesis =>
        exact congrArg (Program.exec _ _) (funext inductionHypothesis)
    | commit onFault rest inductionHypothesis =>
        exact congrArg (Program.commit _) inductionHypothesis
  rw [split] at ended
  exact Program.eval_bind_eq_ok ended

private theorem audit_applyAll_bootstrap (writes : List Bootstrap.Write)
    (db : ProgramDb) :
    ((programSql setup.lower setup.service.catalog).applyAll
      (writes.map ProgramWrite.bootstrap) db).audit = db.audit := by
  induction writes generalizing db with
  | nil => rfl
  | cons write rest inductionHypothesis =>
      rw [List.map_cons, Database.applyAll_cons, inductionHypothesis]
      rfl

def insertsAuditEvent : Bootstrap.Statement → Bool
  | .insertAuditEvent _ => true
  | _ => false

/-- Only one statement of a bootstrap writes to the audit trail. -/
theorem audit_of_query {auditId : Uuid} {statement : Bootstrap.Statement}
    (notAudit : insertsAuditEvent statement = false)
    {connection reached :
      Connection (programSql setup.lower setup.service.catalog)}
    {reply : Bootstrap.Reply statement}
    (ended : (inProgram setup auditId
      (Bootstrap.query setup.service statement)).eval connection =
        (.ok reply, reached)) :
    reached.working.audit = connection.working.audit := by
  have isLifted : execBootstrap setup.service.catalog auditId statement
      connection.working =
        liftAnswer id id .bootstrap
          ((Bootstrap.bootstrapSql setup.service.catalog).exec statement
            connection.working.bootstrap) := by
    cases statement with
    | insertAuditEvent row => cases notAudit
    | _ => rfl
  obtain ⟨writes, answered, isReached⟩ := Program.eval_statement_eq_ok
    (D := programSql setup.lower setup.service.catalog) ended
  have lifted := isLifted.symm.trans answered
  obtain ⟨inner, isWrites⟩ := writes_of_liftAnswer lifted
  rw [isReached, isWrites]
  exact audit_applyAll_bootstrap inner connection.working

private theorem audit_of_insert {auditId : Uuid} {row : Bootstrap.AuditEventRow}
    {connection reached :
      Connection (programSql setup.lower setup.service.catalog)}
    (ended : (inProgram setup auditId
      (Bootstrap.query setup.service (.insertAuditEvent row))).eval connection =
        (.ok (), reached)) :
    reached.working.audit.rows =
      connection.working.audit.rows ++ [bootstrapRow auditId row] := by
  obtain ⟨writes, answered, isReached⟩ := Program.eval_statement_eq_ok
    (D := programSql setup.lower setup.service.catalog) ended
  have inserts : liftAnswer id id
      (fun written => ProgramWrite.api (.inventory (.audit written)))
      (execInsertEvent (bootstrapRow auditId row) connection.working.audit) =
        .ok ((), writes) := answered
  cases inserted : execInsertEvent (bootstrapRow auditId row)
      connection.working.audit with
  | error fault =>
      rw [inserted] at inserts
      cases inserts
  | ok answer =>
      obtain ⟨given, inner⟩ := answer
      rw [inserted, execInsertEvent_eq_ok inserted] at inserts
      cases inserts
      rw [isReached]
      rfl

/-- A start that ends well has inserted a row that is not sealed. -/
theorem audit_of_bootstrapAdmin {auditId : Uuid} {call : Bootstrap.Call}
    {connection reached :
      Connection (programSql setup.lower setup.service.catalog)}
    (ended : (inProgram setup auditId
      (Bootstrap.bootstrapAdmin setup.service call)).eval connection =
        (.ok (), reached)) :
    ∃ row : AuditRow, row.sealedColumns = none ∧
      reached.committed.audit.rows = connection.working.audit.rows ++ [row] := by
  rcases eval_inProgram_bind_eq_ok ended with ⟨_, first, checked, ended⟩
  have sameFirst : first = connection := by
    cases isRefused : Bootstrap.requestRefused setup.service call with
    | true =>
        rw [isRefused] at checked
        cases checked
    | false =>
        rw [isRefused] at checked
        cases checked
        rfl
  rcases eval_inProgram_bind_eq_ok ended with ⟨encoded, second, hashed, ended⟩
  have sameSecond : second = first := by
    cases isHash : Bootstrap.hashPassword setup.service call.password
        call.salt with
    | none =>
        rw [isHash] at hashed
        cases hashed
    | some given =>
        rw [isHash] at hashed
        cases hashed
        rfl
  rcases eval_inProgram_bind_eq_ok ended with ⟨found, third, selected, ended⟩
  cases found with
  | none => cases ended
  | some organizationId =>
      rcases eval_inProgram_bind_eq_ok ended with ⟨userId, fourth, user, ended⟩
      rcases eval_inProgram_bind_eq_ok ended with ⟨roleId, fifth, role, ended⟩
      rcases eval_inProgram_bind_eq_ok ended with ⟨_, sixth, grants, ended⟩
      rcases eval_inProgram_bind_eq_ok ended with ⟨_, seventh, binds, ended⟩
      rcases eval_inProgram_bind_eq_ok ended with ⟨_, last, audits, ended⟩
      have before : seventh.working.audit = connection.working.audit := by
        rw [audit_of_query rfl binds, audit_of_query rfl grants,
          audit_of_query rfl role, audit_of_query rfl user,
          audit_of_query rfl selected, sameSecond, sameFirst]
      have added := audit_of_insert audits
      rw [before] at added
      have isFinal : reached.committed.audit.rows = last.working.audit.rows :=
        congrArg (fun final => final.committed.audit.rows)
          (Program.eval_commitNow_eq_ok ended)
      exact ⟨_, by rfl, isFinal.trans added⟩

private theorem audit_of_succeeds {call : Bootstrap.Call} {auditId : Uuid}
    {db : ProgramDb} {attempt : (programClient setup).Attempt}
    (isBootstrap : attempt.1 = .bootstrap call auditId)
    (succeeds : (programClient setup).Succeeds db attempt) :
    ∃ row : AuditRow, row.sealedColumns = none ∧
      ((programClient setup).after db attempt).audit.rows =
        db.audit.rows ++ [row] := by
  obtain ⟨given, plan⟩ := attempt
  cases isBootstrap
  obtain ⟨result, ended⟩ := succeeds.call
  obtain ⟨final, evaluated, isFinal⟩ := Program.call_eq_ok ended
  rw [isFinal]
  exact audit_of_bootstrapAdmin evaluated

/-- Every state of a run has sealed rows only, and the verification counts
them, exactly if no start of a back-end is committed in it. -/
theorem everyWriteSealed_iff (setup : Setup) {first : ProgramDb}
    (unsealed : Unsealed first.audit)
    (writes : WritesOrganizationFirst setup.audit)
    (attempts : List (programClient setup).Attempt)
    (readsBack : ∀ earlier, earlier <+: attempts →
      ∀ row ∈ ((programClient setup).run first earlier).audit.rows,
        ∀ columns, row.sealedColumns = some columns →
          ReadsBack setup.audit columns.canonicalPayload) :
    (∀ earlier, earlier <+: attempts →
      EveryWriteSealed setup.audit first.audit
        ((programClient setup).run first earlier).audit) ↔
    ∀ earlier attempt, earlier ++ [attempt] <+: attempts →
      LeavesNoBootstrap setup ((programClient setup).run first earlier)
        attempt := by
  constructor
  · intro throughout earlier attempt isPrefix call auditId isBootstrap succeeds
    obtain ⟨before, beforeRows, _⟩ := (throughout earlier
      ((List.prefix_append earlier [attempt]).trans isPrefix)).counted
    obtain ⟨inserted, rows, allSealed, _⟩ :=
      (throughout _ isPrefix).counted
    obtain ⟨row, notSealed, added⟩ := audit_of_succeeds isBootstrap succeeds
    rw [Client.run, List.foldl_append] at rows
    have sameRows := rows.symm.trans added
    rw [beforeRows, List.append_assoc] at sameRows
    have isInserted := List.append_cancel_left sameRows
    rw [isInserted] at allSealed
    exact allSealed row (by simp) notSealed
  · intro noBootstrap earlier isPrefix
    have appends : KeptByAppends setup.audit
        (SealedSince setup.audit first.audit) :=
      fun id draft _ kept => preserves_appendInTx id draft kept
    have kept : OnProgram (SealedSince setup.audit first.audit)
        ((programClient setup).run first earlier) := by
      induction earlier using List.reverseRecOn with
      | nil => exact unsealed.sealedSince
      | append_singleton before attempt inductionHypothesis =>
          rw [Client.run, List.foldl_append]
          apply kept_after appends (noBootstrap before attempt isPrefix)
          exact inductionHypothesis
            ((List.prefix_append before [attempt]).trans isPrefix)
    exact SealedSince.everyWriteSealed unsealed kept writes
      (readsBack earlier isPrefix)

end Runs

namespace Sample

def setup : Setup where
  lower := toAsciiLowercase
  state :=
    { authorization :=
        { library := Token.Sample.libraryOf "site" AuditStore.Sample.digest
          accessKey := Token.Sample.key
          issuer := "snm"
          audience := "snm-api" }
      inventory := ⟨AuditStore.Sample.library, fun _ => ""⟩
      inventoryRequireApproval := false }
  service := Bootstrap.Sample.service

def start : ProgramDb where
  api :=
    { authorization := ⟨.empty _, .empty _,
        ⟨.empty _, .empty _, .empty _, [], .empty _⟩⟩
      inventory := ⟨.empty _, .empty _, .empty _, [], ⟨[]⟩, .empty⟩
      network := ⟨[], []⟩ }
  bootstrap := Bootstrap.Sample.empty

/-- An append without faults. -/
def appending : (programClient setup).Attempt :=
  (.append ⟨⟨3⟩, AuditStore.Sample.draft⟩, [])

/-- The start of a back-end without faults. -/
def starting : (programClient setup).Attempt :=
  (.bootstrap (Bootstrap.Sample.call Bootstrap.Sample.firstPassword 1 0) ⟨7⟩,
    [])

private theorem unsealed_start : Unsealed start.audit :=
  fun _ member => absurd member List.not_mem_nil

/-- The run stores one payload. -/
theorem payload_of_prefix {earlier : List (programClient setup).Attempt}
    (isPrefix : earlier <+: [appending]) :
    ∀ row ∈ ((programClient setup).run start earlier).audit.rows,
      ∀ columns, row.sealedColumns = some columns →
        columns.canonicalPayload = utf8Bytes AuditStore.Sample.text := by
  intro row member columns isSealed
  cases earlier with
  | nil => exact absurd member List.not_mem_nil
  | cons first rest =>
      rw [List.cons_prefix_cons, List.prefix_nil] at isPrefix
      obtain ⟨rfl, rfl⟩ := isPrefix
      have payloads : (((programClient setup).run start
          [appending]).audit.rows.all fun row =>
            row.sealedColumns.all fun columns => decide
              (columns.canonicalPayload =
                utf8Bytes AuditStore.Sample.text)) = true := by
        decide +kernel
      have ofRow := List.all_eq_true.mp payloads row member
      rw [isSealed, Option.all_some, decide_eq_true_eq] at ofRow
      exact ofRow

end Sample

/-- The row that the start of a back-end has inserted is not sealed. -/
theorem not_everyWriteSealed :
    (programClient Sample.setup).Succeeds Sample.start Sample.starting ∧
    ¬ EveryWriteSealed Sample.setup.audit Sample.start.audit
      ((programClient Sample.setup).run Sample.start
        [Sample.starting]).audit := by
  have oneRow : ((programClient Sample.setup).run Sample.start
      [Sample.starting]).audit.rows =
        [bootstrapRow ⟨7⟩
          { organizationId := ⟨1⟩
            actorType := "system"
            action := "auth.bootstrap_admin.ensure"
            resourceType := "user"
            resourceId := ⟨100⟩
            correlationId := ⟨400⟩
            result := "\x7b\"outcome\":\"ensured\"\x7d"
            status := "succeeded"
            reasonCode := "bootstrap" }] := by
    decide
  constructor
  · by_contra failed
    have commitsLast := @commitsLast_inProgram Sample.setup ⟨7⟩ _ _
      (commitsLast_bootstrapAdmin Sample.setup.service
        (Bootstrap.Sample.call Bootstrap.Sample.firstPassword 1 0))
    have unchanged := @Client.after_eq_of_not_succeeds _ _
      (programClient Sample.setup) Sample.start Sample.starting commitsLast
      failed
    rw [Client.run_cons, Client.run_nil, unchanged] at oneRow
    cases oneRow
  · intro complete
    obtain ⟨inserted, rows, allSealed, _⟩ := complete.counted
    rw [oneRow] at rows
    have isInserted : inserted = [bootstrapRow ⟨7⟩ _] := rows.symm
    rw [isInserted] at allSealed
    exact allSealed _ (List.mem_singleton_self _) rfl

theorem everyWriteSealed_appended :
    EveryWriteSealed Sample.setup.audit Sample.start.audit
      ((programClient Sample.setup).run Sample.start
        [Sample.appending]).audit := by
  refine (everyWriteSealed_iff Sample.setup Sample.unsealed_start
    AuditStore.Sample.writesOrganizationFirst [Sample.appending] ?_).mpr ?_
      [Sample.appending] List.prefix_rfl
  · intro earlier isPrefix row member columns isSealed
    have payload := Sample.payload_of_prefix isPrefix row member columns isSealed
    rw [payload]
    exact ⟨AuditStore.Sample.draft.sanitize,
      by simp [Sample.setup, Setup.audit, AuditStore.Sample.library],
      by simp [Sample.setup, Setup.audit, AuditStore.Sample.library]⟩
  · intro earlier attempt isPrefix call auditId isBootstrap
    cases earlier with
    | nil =>
        have isAppend : attempt = Sample.appending := by simpa using isPrefix
        rw [isAppend] at isBootstrap
        cases isBootstrap
    | cons first rest =>
        rw [List.cons_append, List.cons_prefix_cons] at isPrefix
        simp at isPrefix

end NetworkManager.Backend.AuditWrites
