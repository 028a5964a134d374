import NetworkManager.IdentityStore.Store

/-!
# Runs of the service account store

What the calls of the store do to accounts and credentials, and what holds of
the credentials that were issued, after any calls under any faults.

A credential keeps what it was issued with.  Once it is revoked, or its account
is disabled, it stays so.
-/

namespace NetworkManager.IdentityStore

open NetworkManager.Foundation
open NetworkManager.Security.Token
open NetworkManager.Transaction

inductive ServiceCall where
  | createAccount (accountId organizationId : Uuid) (name : String)
  | disableAccount (organizationId accountId : Uuid)
  | issueCredential (credentialId : Uuid) (random : FixedBytes 32)
      (organizationId accountId : Uuid) (input : NewServiceAccountCredential)
  | revokeCredential (organizationId accountId credentialId : Uuid)
  | bindRole (bindingId organizationId accountId roleId : Uuid)
      (siteId : Option Uuid)
  | authenticate (token : Bytes) (sourceIp : IpAddr)

abbrev ServiceResult : ServiceCall → Type
  | .createAccount .. => ServiceAccountSummary
  | .disableAccount .. => Bool
  | .issueCredential .. => IssuedServiceAccountCredential
  | .revokeCredential .. => Bool
  | .bindRole .. => Unit
  | .authenticate .. => ServicePrincipal

/-- The calls of the store at a time. -/
def serviceClient (castCidr : String → Option Cidr) (library : TokenLibrary)
    (now : Timestamp) :
    Client (serviceAccountSql castCidr) IdentityStoreError where
  Call := ServiceCall
  Result := ServiceResult
  program
    | .createAccount accountId organizationId name =>
        createAccount castCidr accountId organizationId name
    | .disableAccount organizationId accountId =>
        disableAccount castCidr now organizationId accountId
    | .issueCredential credentialId random organizationId accountId input =>
        issueCredential castCidr library credentialId random organizationId
          accountId input
    | .revokeCredential organizationId accountId credentialId =>
        revokeCredential castCidr now organizationId accountId credentialId
    | .bindRole bindingId organizationId accountId roleId siteId =>
        bindRole castCidr bindingId organizationId accountId roleId siteId
    | .authenticate token sourceIp =>
        authenticate castCidr library now token sourceIp

/-- What `issueCredential` was given, and what it returned. -/
structure IssueRecord where
  credentialId : Uuid
  token : IssuedOpaqueToken
  organizationId : Uuid
  accountId : Uuid
  input : NewServiceAccountCredential
deriving DecidableEq

def recordsOf : (call : ServiceCall) →
    Except IdentityStoreError (ServiceResult call) → List IssueRecord
  | .issueCredential _ _ organizationId accountId input, .ok issued =>
      [⟨issued.credentialId, issued.token, organizationId, accountId, input⟩]
  | _, _ => []

inductive ServiceEvent where
  | call (call : ServiceCall) (plan : List (Option SqlError))
  | advance (elapsed : Nat)

/-- The state of a run, with a record of every credential issued in it. -/
structure ServiceRun where
  db : ServiceAccountDb
  clock : Timestamp
  issued : List IssueRecord

def ServiceRun.initial (db : ServiceAccountDb) (clock : Timestamp) :
    ServiceRun := ⟨db, clock, []⟩

section Runs

variable (castCidr : String → Option Cidr) (library : TokenLibrary)

/-- The outcome of a call in the state of a run, and what the call commits. -/
def ServiceRun.outcome (run : ServiceRun) (call : ServiceCall)
    (plan : List (Option SqlError)) :
    Except IdentityStoreError (ServiceResult call) × ServiceAccountDb :=
  ((serviceClient castCidr library run.clock).program call).callFaulty plan
    run.db

def ServiceRun.step (run : ServiceRun) : ServiceEvent → ServiceRun
  | .call call plan =>
      let ended := run.outcome castCidr library call plan
      ⟨ended.2, run.clock, run.issued ++ recordsOf call ended.1⟩
  | .advance elapsed => { run with clock := run.clock + elapsed }

def ServiceRun.after (run : ServiceRun) (events : List ServiceEvent) :
    ServiceRun :=
  events.foldl (ServiceRun.step castCidr library) run

end Runs

/-! ## What a call keeps -/

/-- The rows are alike but for their revocation and their use. -/
def CredentialRow.SameGrant (left right : CredentialRow) : Prop :=
  left = { right with
    revokedAt := left.revokedAt, lastUsedAt := left.lastUsedAt }

def IssueRecord.columns (record : IssueRecord) : CredentialColumns where
  id := record.credentialId
  serviceAccountId := record.accountId
  tokenPrefix := record.token.visiblePrefix
  tokenHash := record.token.hash.bytes
  scopes := record.input.scopes
  allowedCidrs := record.input.allowedCidrs
  expiresAt := record.input.expiresAtUnixSeconds

/-- The credential of a record is stored as it was issued. -/
structure IssueRecord.Stored (castCidr : String → Option Cidr)
    (library : TokenLibrary) (db : ServiceAccountDb) (record : IssueRecord) :
    Prop where
  token : ∃ random,
    issueOpaqueToken library serviceTokenPrefix random = .ok record.token
  row : ∃ row inserted, db.credentials.lookup record.credentialId = some row ∧
    record.columns.row castCidr = .ok inserted ∧ row.SameGrant inserted
  account : ∃ account, db.accounts.lookup record.accountId = some account ∧
    account.organizationId = record.organizationId

/-- The credential is revoked, or its account is disabled. -/
def IssueRecord.Ended (db : ServiceAccountDb) (record : IssueRecord) : Prop :=
  (∃ row, db.credentials.lookup record.credentialId = some row ∧
    row.revokedAt.isSome) ∨
  ∃ account, db.accounts.lookup record.accountId = some account ∧
    account.status = .disabled

/-- Accounts and credentials stay, and end for good. -/
structure Keeps (before after : ServiceAccountDb) : Prop where
  accounts : ∀ id account, before.accounts.lookup id = some account →
    ∃ later, after.accounts.lookup id = some later ∧
      later.organizationId = account.organizationId ∧
      (account.status = .disabled → later.status = .disabled)
  credentials : ∀ id row, before.credentials.lookup id = some row →
    ∃ later, after.credentials.lookup id = some later ∧
      later.SameGrant row ∧ (row.revokedAt.isSome → later.revokedAt.isSome)

variable {castCidr : String → Option Cidr} {library : TokenLibrary}
  {before middle after db : ServiceAccountDb} {record : IssueRecord}

private theorem CredentialRow.SameGrant.refl (row : CredentialRow) :
    row.SameGrant row := rfl

private theorem CredentialRow.SameGrant.trans
    {first second third : CredentialRow}
    (later : third.SameGrant second) (earlier : second.SameGrant first) :
    third.SameGrant first := by
  unfold CredentialRow.SameGrant at *
  rw [later, earlier]

private theorem Keeps.refl (db : ServiceAccountDb) : Keeps db db where
  accounts _ account found := ⟨account, found, rfl, id⟩
  credentials _ row found := ⟨row, found, .refl row, id⟩

private theorem Keeps.trans (first : Keeps before middle)
    (second : Keeps middle after) : Keeps before after where
  accounts id account found := by
    obtain ⟨second', found', sameOrganization, disabled⟩ :=
      first.accounts id account found
    obtain ⟨third, reached, sameOrganization', disabled'⟩ :=
      second.accounts id second' found'
    exact ⟨third, reached, sameOrganization'.trans sameOrganization,
      fun isDisabled => disabled' (disabled isDisabled)⟩
  credentials id row found := by
    obtain ⟨second', found', sameGrant, revoked⟩ :=
      first.credentials id row found
    obtain ⟨third, reached, sameGrant', revoked'⟩ :=
      second.credentials id second' found'
    exact ⟨third, reached, sameGrant'.trans sameGrant,
      fun isRevoked => revoked' (revoked isRevoked)⟩

theorem IssueRecord.Stored.keeps (stored : record.Stored castCidr library before)
    (keeps : Keeps before after) : record.Stored castCidr library after where
  token := stored.token
  row := by
    obtain ⟨row, inserted, found, isRow, sameGrant⟩ := stored.row
    obtain ⟨later, reached, same, _⟩ := keeps.credentials _ row found
    exact ⟨later, inserted, reached, isRow, same.trans sameGrant⟩
  account := by
    obtain ⟨account, found, sameOrganization⟩ := stored.account
    obtain ⟨later, reached, same, _⟩ := keeps.accounts _ account found
    exact ⟨later, reached, same.trans sameOrganization⟩

theorem IssueRecord.Ended.keeps (ended : record.Ended before)
    (keeps : Keeps before after) : record.Ended after := by
  rcases ended with ⟨row, found, revoked⟩ | ⟨account, found, disabled⟩
  · obtain ⟨later, reached, _, stillRevoked⟩ := keeps.credentials _ row found
    exact Or.inl ⟨later, reached, stillRevoked revoked⟩
  · obtain ⟨later, reached, _, stillDisabled⟩ :=
      keeps.accounts _ account found
    exact Or.inr ⟨later, reached, stillDisabled disabled⟩

private theorem keeps_credentials {credentials :
      Table Uuid CredentialRow CredentialRow.id}
    (kept : ∀ id row, db.credentials.lookup id = some row →
      ∃ later, credentials.lookup id = some later ∧
        later.SameGrant row ∧ (row.revokedAt.isSome → later.revokedAt.isSome)) :
    Keeps db { db with credentials } where
  accounts _ account found := ⟨account, found, rfl, id⟩
  credentials := kept

private theorem keeps_update {selected : CredentialRow → Bool}
    {change : CredentialRow → CredentialRow}
    {sameKey : ∀ row, (change row).id = row.id}
    (sameGrant : ∀ row, (change row).SameGrant row)
    (revoked : ∀ row : CredentialRow, row.revokedAt.isSome →
      (change row).revokedAt.isSome) :
    Keeps db
      { db with credentials := db.credentials.update selected change sameKey } := by
  apply keeps_credentials
  intro id row found
  rw [Table.lookup_update, found, Option.map_some]
  by_cases chosen : selected row = true
  · rw [if_pos chosen]
    exact ⟨change row, rfl, sameGrant row, revoked row⟩
  · rw [if_neg chosen]
    exact ⟨row, rfl, .refl row, fun isRevoked => isRevoked⟩

/-- An insertion is of a row with a new key. -/
def Write.New (db : ServiceAccountDb) : Write → Prop
  | .account row => db.accounts.lookup row.id = none
  | .credential row => db.credentials.lookup row.id = none
  | _ => True

private theorem keeps_applyWrite {write : Write} (isNew : write.New db) :
    Keeps db (applyWrite write db) := by
  cases write with
  | account row =>
      refine ⟨?_, fun _ row found => ⟨row, found, .refl row, id⟩⟩
      intro id account found
      have different : row.id ≠ id := by
        rintro rfl
        have absent : db.accounts.lookup row.id = none := isNew
        rw [absent] at found
        cases found
      exact ⟨account, (Table.lookup_put_of_ne different).trans found, rfl,
        fun disabled => disabled⟩
  | accountDisabled accountId =>
      refine ⟨?_, fun _ row found => ⟨row, found, .refl row, id⟩⟩
      intro id account found
      simp only [applyWrite, Table.lookup_update, found, Option.map_some]
      by_cases chosen : account.id = accountId
      · exact ⟨account.disable, by simp [chosen], rfl, fun _ => rfl⟩
      · exact ⟨account, by simp [chosen], rfl, fun disabled => disabled⟩
  | credential row =>
      apply keeps_credentials
      intro id stored found
      have different : row.id ≠ id := by
        rintro rfl
        have absent : db.credentials.lookup row.id = none := isNew
        rw [absent] at found
        cases found
      exact ⟨stored, (Table.lookup_put_of_ne different).trans found,
        .refl stored, fun revoked => revoked⟩
  | credentialsRevoked accountId now =>
      exact keeps_update (fun _ => rfl) fun _ _ => rfl
  | credentialRevoked credentialId now =>
      exact keeps_update (fun _ => rfl) fun _ _ => rfl
  | credentialUsed credentialId now =>
      exact keeps_update (fun _ => rfl) fun _ revoked => revoked
  | binding row =>
      exact ⟨fun _ account found => ⟨account, found, rfl, id⟩,
        fun _ row found => ⟨row, found, .refl row, id⟩⟩

variable {statement : Statement} {reply : Reply statement}
  {writes : List Write}

private theorem execInsertAccount_eq_ok {row inserted : AccountRow}
    (answered : execInsertAccount row db = .ok (inserted, writes)) :
    inserted = row ∧ writes = [.account row] ∧
      db.accounts.lookup row.id = none := by
  unfold execInsertAccount at answered
  split at answered
  · cases answered
  · rename_i isNew
    split at answered
    · cases answered
    · split at answered
      · cases answered
      · cases answered
        exact ⟨rfl, rfl, by simpa using isNew⟩

theorem CredentialColumns.row_eq_ok {columns : CredentialColumns}
    {row : CredentialRow} (made : columns.row castCidr = .ok row) :
    ∃ allowedCidrs expiresAt,
      columns.allowedCidrs.mapM castCidr = some allowedCidrs ∧
      columns.expiresAt.mapM toTimestamp = .ok expiresAt ∧
      row =
        { id := columns.id
          serviceAccountId := columns.serviceAccountId
          tokenPrefix := columns.tokenPrefix
          tokenHash := columns.tokenHash
          scopes := columns.scopes
          allowedCidrs
          expiresAt
          revokedAt := none
          lastUsedAt := none } := by
  unfold CredentialColumns.row at made
  cases cast : columns.allowedCidrs.mapM castCidr with
  | none =>
      rw [cast] at made
      cases made
  | some allowedCidrs =>
      cases converted : columns.expiresAt.mapM toTimestamp with
      | error failure =>
          rw [cast, converted] at made
          cases made
      | ok expiresAt =>
          rw [cast, converted] at made
          cases made
          exact ⟨allowedCidrs, expiresAt, rfl, rfl, rfl⟩

private theorem execInsertCredential_eq_ok {organizationId : Uuid}
    {columns : CredentialColumns} {inserted : Nat}
    (answered : execInsertCredential castCidr organizationId columns db =
      .ok (inserted, writes)) :
    (inserted = 0 ∧ writes = []) ∨
      ∃ row account, inserted = 1 ∧ writes = [.credential row] ∧
        columns.row castCidr = .ok row ∧
        db.credentials.lookup row.id = none ∧
        db.accounts.lookup columns.serviceAccountId = some account ∧
        account.organizationId = organizationId ∧ account.status = .active := by
  unfold execInsertCredential at answered
  cases found : (db.account columns.serviceAccountId organizationId).filter
      fun row => row.status = .active with
  | none =>
      rw [found] at answered
      cases answered
      exact Or.inl ⟨rfl, rfl⟩
  | some account =>
      rw [found] at answered
      obtain ⟨isOwned, active⟩ := Option.filter_eq_some_iff.mp found
      obtain ⟨isAccount, owned⟩ := Option.filter_eq_some_iff.mp isOwned
      cases made : columns.row castCidr with
      | error failure =>
          rw [made] at answered
          cases answered
      | ok row =>
          simp only [made, bind, Except.bind, pure, Except.pure, throw,
            throwThe, MonadExceptOf.throw] at answered
          split at answered
          · cases answered
          · rename_i isNew
            split at answered
            · cases answered
            · split at answered
              · cases answered
              · cases answered
                exact Or.inr ⟨row, account, rfl, rfl, rfl, by simpa using isNew,
                  isAccount, of_decide_eq_true owned, of_decide_eq_true active⟩

theorem execInsertBinding_eq_ok {row : BindingRow}
    (answered : execInsertBinding row db = .ok ((), writes)) :
    writes = [.binding row] ∧
      db.rbac.roleBindings.lookup row.id = none := by
  unfold execInsertBinding at answered
  cases valid : validateRoleBindingScope db.rbac (fun _ _ => false)
      db.isServiceAccount row with
  | error failure =>
      rw [valid] at answered
      cases answered
  | ok value =>
      simp only [valid, bind, Except.bind, pure, Except.pure, throw, throwThe,
        MonadExceptOf.throw] at answered
      split at answered
      · cases answered
      · rename_i isNew
        split at answered
        · cases answered
        · split at answered
          · cases answered
          · split at answered
            · cases answered
            · cases answered
              exact ⟨rfl, by simpa using isNew⟩

/-- The writes that a statement may make. -/
def Statement.Makes : Statement → Write → Prop
  | .insertAccount _, .account _ => True
  | .disableAccount .., .accountDisabled _ => True
  | .revokeCredentials accountId _, .credentialsRevoked revoked _ =>
      revoked = accountId
  | .insertCredential .., .credential _ => True
  | .revokeCredential .., .credentialRevoked .. => True
  | .updateLastUsed .., .credentialUsed .. => True
  | .insertBinding _, .binding _ => True
  | _, _ => False

/-- A statement makes at most one write. -/
theorem exec_writes
    (answered : (serviceAccountSql castCidr).exec statement db =
      .ok (reply, writes)) :
    writes = [] ∨
      ∃ write, writes = [write] ∧ write.New db ∧ statement.Makes write := by
  cases statement with
  | insertAccount row =>
      obtain ⟨_, rfl, isNew⟩ := execInsertAccount_eq_ok answered
      exact Or.inr ⟨_, rfl, isNew, trivial⟩
  | disableAccount accountId organizationId =>
      have isAnswer := Except.ok.inj answered
      unfold execDisableAccount at isAnswer
      split at isAnswer
      · cases isAnswer
        exact Or.inr ⟨_, rfl, trivial, trivial⟩
      · cases isAnswer
        exact Or.inl rfl
  | revokeCredentials accountId now =>
      cases answered
      exact Or.inr ⟨_, rfl, trivial, rfl⟩
  | insertCredential organizationId columns =>
      rcases execInsertCredential_eq_ok answered with
        ⟨_, rfl⟩ | ⟨row, _, _, rfl, _, isNew, _⟩
      · exact Or.inl rfl
      · exact Or.inr ⟨_, rfl, isNew, trivial⟩
  | revokeCredential credentialId accountId organizationId now =>
      have isAnswer := Except.ok.inj answered
      unfold execRevokeCredential at isAnswer
      split at isAnswer
      · cases isAnswer
        exact Or.inr ⟨_, rfl, trivial, trivial⟩
      · cases isAnswer
        exact Or.inl rfl
  | selectCandidates tokenPrefix sourceIp now =>
      cases answered
      exact Or.inl rfl
  | updateLastUsed credentialId now =>
      cases answered
      exact Or.inr ⟨_, rfl, trivial, trivial⟩
  | insertBinding row =>
      obtain ⟨rfl, _⟩ := execInsertBinding_eq_ok answered
      exact Or.inr ⟨_, rfl, trivial, trivial⟩

theorem keeps_exec
    (answered : (serviceAccountSql castCidr).exec statement db =
      .ok (reply, writes)) :
    Keeps db ((serviceAccountSql castCidr).applyAll writes db) := by
  rcases exec_writes answered with rfl | ⟨write, rfl, isNew, _⟩
  · exact .refl db
  · exact keeps_applyWrite isNew

/-- Every credential was there before. -/
def NoneAdded (before after : ServiceAccountDb) : Prop :=
  ∀ id, (after.credentials.lookup id).isSome →
    (before.credentials.lookup id).isSome

private theorem noneAdded_applyWrite {write : Write}
    (insertsNone : ∀ row, write ≠ .credential row) :
    NoneAdded db (applyWrite write db) := by
  intro id present
  cases write with
  | credential row => exact absurd rfl (insertsNone row)
  | credentialsRevoked accountId now =>
      simpa [applyWrite, Table.lookup_update] using present
  | credentialRevoked credentialId now =>
      simpa [applyWrite, Table.lookup_update] using present
  | credentialUsed credentialId now =>
      simpa [applyWrite, Table.lookup_update] using present
  | account row => exact present
  | accountDisabled accountId => exact present
  | binding row => exact present

variable {ε α : Type}

theorem keeps_callFaulty
    (program : Program (serviceAccountSql castCidr) ε α)
    (plan : List (Option SqlError)) (db : ServiceAccountDb) :
    Keeps db (program.callFaulty plan db).2 :=
  program.runs_all.callFaulty
    (fun _ _ _ _ _ keeps answered => keeps.trans (keeps_exec answered)) plan
    (.refl db)

/-- The statements that a call may run. -/
def ServiceCall.Uses : ServiceCall → Statement → Prop
  | .createAccount .., .insertAccount _ => True
  | .disableAccount organizationId accountId,
      .disableAccount disabled organization =>
      disabled = accountId ∧ organization = organizationId
  | .disableAccount _ accountId, .revokeCredentials revoked _ =>
      revoked = accountId
  | .issueCredential .., .insertCredential .. => True
  | .revokeCredential organizationId accountId credentialId,
      .revokeCredential revoked account organization _ =>
      revoked = credentialId ∧ account = accountId ∧
        organization = organizationId
  | .bindRole .., .insertBinding _ => True
  | .authenticate .., .selectCandidates .. => True
  | .authenticate .., .updateLastUsed .. => True
  | _, _ => False

private theorem runs_serviceClient (now : Timestamp) (call : ServiceCall) :
    ((serviceClient castCidr library now).program call).Runs call.Uses := by
  cases call with
  | createAccount accountId organizationId name =>
      refine (Program.runs_check _ _).bind fun _ => ?_
      refine (Program.Runs.of_statement _ trivial).bind fun _ => ?_
      exact .commit (.done _)
  | disableAccount organizationId accountId =>
      refine (Program.Runs.of_statement _ ⟨rfl, rfl⟩).bind fun updated => ?_
      by_cases one : updated = 1
      · simp only [if_pos one]
        exact .exec rfl fun _ => .commit (.done _)
      · simp only [if_neg one]
        exact .commit (.done _)
  | issueCredential credentialId random organizationId accountId input =>
      refine Program.Runs.bind (.done _) fun _ => ?_
      refine Program.Runs.bind (.done _) fun _ => ?_
      refine Program.Runs.bind (.done _) fun _ => ?_
      refine (Program.Runs.of_statement _ trivial).bind fun _ => ?_
      refine (Program.runs_check _ _).bind fun _ => ?_
      exact .commit (.done _)
  | revokeCredential organizationId accountId credentialId =>
      exact .exec ⟨rfl, rfl, rfl⟩ fun _ => .commit (.done _)
  | bindRole bindingId organizationId accountId roleId siteId =>
      exact .exec trivial fun _ => .commit (.done _)
  | authenticate token sourceIp =>
      refine Program.Runs.bind (.done _) fun _ => ?_
      refine (Program.Runs.of_statement _ trivial).bind fun rows => ?_
      induction rows with
      | nil => exact .done _
      | cons row rest inductionHypothesis =>
          refine Program.Runs.bind (.done _) fun expectedHash => ?_
          by_cases isMatch : opaqueTokenMatches library token expectedHash
          · rw [if_pos isMatch]
            exact .exec trivial fun _ => .commit (.done _)
          · rw [if_neg isMatch]
            exact inductionHypothesis

/-- What the statements of a call keep, the call keeps. -/
theorem keeps_outcome {run : ServiceRun} {call : ServiceCall}
    {plan : List (Option SqlError)} (holds : ServiceAccountDb → Prop)
    (kept : ∀ query state reply writes, call.Uses query → holds state →
      (serviceAccountSql castCidr).exec query state = .ok (reply, writes) →
      holds ((serviceAccountSql castCidr).applyAll writes state))
    (before : holds run.db) :
    holds (run.outcome castCidr library call plan).2 :=
  (runs_serviceClient run.clock call).callFaulty kept plan before

/-- Of the calls only `issueCredential` inserts a credential. -/
theorem noneAdded_outcome {run : ServiceRun} {call : ServiceCall}
    {plan : List (Option SqlError)}
    (noIssue : ∀ credentialId random organizationId accountId input, call ≠
      .issueCredential credentialId random organizationId accountId input) :
    NoneAdded run.db (run.outcome castCidr library call plan).2 := by
  refine keeps_outcome (NoneAdded run.db) ?_ fun _ present => present
  intro query state reply writes uses noneAdded answered
  rcases exec_writes answered with rfl | ⟨write, rfl, _, makes⟩
  · exact noneAdded
  · have insertsNone : ∀ row, write ≠ .credential row := by
      rintro row rfl
      cases query with
      | insertCredential organizationId columns =>
          cases call with
          | issueCredential _ _ _ _ _ => exact noIssue _ _ _ _ _ rfl
          | _ => exact uses
      | _ => exact makes
    exact fun id present =>
      noneAdded id (noneAdded_applyWrite insertsNone id present)

/-- Every call commits at its end, if it does. -/
theorem commitsLast_serviceClient (now : Timestamp) (call : ServiceCall) :
    ((serviceClient castCidr library now).program call).CommitsLast := by
  cases call with
  | createAccount accountId organizationId name =>
      refine (Program.commitFree_check _ _).bind_commitsLast fun _ => ?_
      refine (Program.commitFree_statement _ _).bind_commitsLast fun _ => ?_
      exact .commit _ _
  | disableAccount organizationId accountId =>
      refine (Program.commitFree_statement _ _).bind_commitsLast fun updated => ?_
      by_cases one : updated = 1
      · simp only [if_pos one]
        exact .exec fun _ => .commit _ _
      · simp only [if_neg one]
        exact .commit _ _
  | issueCredential credentialId random organizationId accountId input =>
      refine (Program.commitFree_ofExcept _).bind_commitsLast fun _ => ?_
      refine (Program.commitFree_ofExcept _).bind_commitsLast fun _ => ?_
      refine (Program.commitFree_ofExcept _).bind_commitsLast fun _ => ?_
      refine (Program.commitFree_statement _ _).bind_commitsLast fun _ => ?_
      refine (Program.commitFree_check _ _).bind_commitsLast fun _ => ?_
      exact .commit _ _
  | revokeCredential organizationId accountId credentialId =>
      exact .exec fun _ => .commit _ _
  | bindRole bindingId organizationId accountId roleId siteId =>
      exact .exec fun _ => .commit _ _
  | authenticate token sourceIp =>
      refine (Program.commitFree_ofExcept _).bind_commitsLast fun _ => ?_
      refine (Program.commitFree_statement _ _).bind_commitsLast fun rows => ?_
      induction rows with
      | nil => exact .done _
      | cons row rest inductionHypothesis =>
          refine (Program.commitFree_ofExcept _).bind_commitsLast
            fun expectedHash => ?_
          by_cases isMatch : opaqueTokenMatches library token expectedHash
          · rw [if_pos isMatch]
            exact .exec fun _ => .commit _ _
          · rw [if_neg isMatch]
            exact inductionHypothesis

/-- A credential that is issued is stored and can be used, and no other is
added. -/
theorem call_issueCredential_ok {credentialId organizationId accountId : Uuid}
    {random : FixedBytes 32} {input : NewServiceAccountCredential}
    {issued : IssuedServiceAccountCredential}
    (accepted : (issueCredential castCidr library credentialId random
      organizationId accountId input).call db = (.ok issued, after)) :
    IssueRecord.Stored castCidr library after
        ⟨issued.credentialId, issued.token, organizationId, accountId, input⟩ ∧
      ¬ IssueRecord.Ended after
        ⟨issued.credentialId, issued.token, organizationId, accountId, input⟩ ∧
      issued.credentialId = credentialId ∧
      ∀ id, (after.credentials.lookup id).isSome →
        id = issued.credentialId ∨ (db.credentials.lookup id).isSome := by
  obtain ⟨final, ended, rfl⟩ := Program.call_eq_ok accepted
  obtain ⟨_, _, ran, ended⟩ := Program.eval_bind_eq_ok ended
  obtain ⟨_, rfl⟩ := Program.eval_ofExcept_eq_ok ran
  obtain ⟨_, _, ran, ended⟩ := Program.eval_bind_eq_ok ended
  obtain ⟨_, rfl⟩ := Program.eval_ofExcept_eq_ok ran
  obtain ⟨token, _, ran, ended⟩ := Program.eval_bind_eq_ok ended
  obtain ⟨isToken, rfl⟩ := Program.eval_ofExcept_eq_ok ran
  obtain ⟨inserted, _, ran, ended⟩ := Program.eval_bind_eq_ok ended
  obtain ⟨writes, answered, rfl⟩ := Program.eval_statement_eq_ok ran
  obtain ⟨_, _, ran, ended⟩ := Program.eval_bind_eq_ok ended
  obtain ⟨one, rfl⟩ := Program.eval_check_eq_ok ran
  obtain ⟨_, _, ran, ended⟩ := Program.eval_bind_eq_ok ended
  have isFinal := Program.eval_commitNow_eq_ok ran
  obtain ⟨rfl, rfl⟩ := Program.eval_pure_eq_ok ended
  have made : issueOpaqueToken library serviceTokenPrefix random = .ok token := by
    cases issuing : issueOpaqueToken library serviceTokenPrefix random with
    | error failure => simp [issuing, Except.mapError] at isToken
    | ok given => simpa [issuing, Except.mapError] using isToken
  rcases execInsertCredential_eq_ok answered with
    ⟨rfl, _⟩ | ⟨row, account, _, rfl, isRow, isNew, found, sameOrganization,
      active⟩
  · simp at one
  · have isAfter : final.committed =
        applyWrite (.credential row) db := by
      rw [isFinal]
      rfl
    have ⟨sameId, unrevoked⟩ : row.id = credentialId ∧ row.revokedAt = none := by
      obtain ⟨_, _, _, _, rfl⟩ := CredentialColumns.row_eq_ok isRow
      exact ⟨rfl, rfl⟩
    have isStored :
        (applyWrite (.credential row) db).credentials.lookup credentialId =
          some row := by
      rw [← sameId]
      exact Table.lookup_put_self row db.credentials
    rw [isAfter]
    refine ⟨⟨⟨random, made⟩, ⟨row, row, isStored, isRow, .refl row⟩,
      ⟨account, found, sameOrganization⟩⟩, ?_, rfl, ?_⟩
    · rintro (⟨stored, found', revoked⟩ | ⟨owner, isOwner, disabled⟩)
      · have same : some row = some stored := isStored.symm.trans found'
        rw [← Option.some.inj same, unrevoked] at revoked
        cases revoked
      · have same : some account = some owner := found.symm.trans isOwner
        rw [← Option.some.inj same, active] at disabled
        cases disabled
    · intro id present
      by_cases same : row.id = id
      · exact Or.inl (same.symm.trans sameId)
      · exact Or.inr (by
          simpa [applyWrite, Table.lookup_put_of_ne same] using present)

/-! ## Runs -/

/-- The records of a run are those of its credentials. -/
structure Recorded (castCidr : String → Option Cidr) (library : TokenLibrary)
    (run : ServiceRun) : Prop where
  stored : ∀ record ∈ run.issued, record.Stored castCidr library run.db
  known : ∀ id, (run.db.credentials.lookup id).isSome →
    ∃ record ∈ run.issued, record.credentialId = id

variable {run : ServiceRun}

theorem recorded_initial (clock : Timestamp)
    (noCredential : db.credentials.rows = []) :
    Recorded castCidr library (.initial db clock) where
  stored _ member := by cases member
  known id present := by
    rw [ServiceRun.initial, Table.lookup, noCredential] at present
    cases present

theorem keeps_step (event : ServiceEvent) :
    Keeps run.db (run.step castCidr library event).db := by
  cases event with
  | call call plan => exact keeps_callFaulty _ plan run.db
  | advance elapsed => exact .refl run.db

/-- A call that returns no credential adds none. -/
theorem recorded_of_noneAdded (recorded : Recorded castCidr library run)
    (keeps : Keeps run.db after) (noneAdded : NoneAdded run.db after)
    (clock : Timestamp) :
    Recorded castCidr library ⟨after, clock, run.issued⟩ where
  stored record member := (recorded.stored record member).keeps keeps
  known id present := recorded.known id (noneAdded id present)

private theorem recordsOf_eq_nil {call : ServiceCall}
    {outcome : Except IdentityStoreError (ServiceResult call)}
    (noIssue : ∀ credentialId random organizationId accountId input, call ≠
      .issueCredential credentialId random organizationId accountId input) :
    recordsOf call outcome = [] := by
  cases call with
  | issueCredential credentialId random organizationId accountId input =>
      exact absurd rfl (noIssue _ _ _ _ _)
  | createAccount accountId organizationId name => rfl
  | disableAccount organizationId accountId => rfl
  | revokeCredential organizationId accountId credentialId => rfl
  | bindRole bindingId organizationId accountId roleId siteId => rfl
  | authenticate token sourceIp => rfl

private theorem recorded_issueCredential
    {credentialId organizationId accountId : Uuid}
    {random : FixedBytes 32} {input : NewServiceAccountCredential}
    (recorded : Recorded castCidr library run)
    (plan : List (Option SqlError)) :
    Recorded castCidr library (run.step castCidr library
      (.call (.issueCredential credentialId random organizationId accountId
        input) plan)) := by
  have keeps := keeps_callFaulty (issueCredential castCidr library credentialId
    random organizationId accountId input) plan run.db
  rcases ended : (issueCredential castCidr library credentialId random
      organizationId accountId input).callFaulty plan run.db with
    ⟨outcome, after⟩
  rw [ended] at keeps
  simp only [ServiceRun.step, ServiceRun.outcome, serviceClient, ended]
  cases outcome with
  | error failure =>
      obtain rfl := Program.callFaulty_error
        (commitsLast_serviceClient run.clock (.issueCredential credentialId
          random organizationId accountId input)) ended
      have noRecord : recordsOf (.issueCredential credentialId random
          organizationId accountId input) (.error failure) = [] := rfl
      rw [noRecord, List.append_nil]
      exact recorded
  | ok issued =>
      obtain ⟨stored, _, _, added⟩ :=
        call_issueCredential_ok (Program.callFaulty_ok ended)
      constructor
      · intro record member
        rcases List.mem_append.mp member with early | late
        · exact (recorded.stored record early).keeps keeps
        · cases List.mem_singleton.mp late
          exact stored
      · intro id present
        rcases added id present with rfl | old
        · exact ⟨_, List.mem_append_right _ (List.mem_singleton.mpr rfl), rfl⟩
        · obtain ⟨record, member, same⟩ := recorded.known id old
          exact ⟨record, List.mem_append_left _ member, same⟩

private theorem recorded_step (recorded : Recorded castCidr library run)
    (event : ServiceEvent) :
    Recorded castCidr library (run.step castCidr library event) := by
  cases event with
  | advance elapsed =>
      exact recorded_of_noneAdded recorded (.refl run.db)
        (fun _ present => present) _
  | call call plan =>
      by_cases issues : ∃ credentialId random organizationId accountId input,
          call = .issueCredential credentialId random organizationId accountId
            input
      · obtain ⟨credentialId, random, organizationId, accountId, input, rfl⟩ :=
          issues
        exact recorded_issueCredential recorded plan
      · have noIssue : ∀ credentialId random organizationId accountId input,
            call ≠ .issueCredential credentialId random organizationId
              accountId input := by
          rintro _ _ _ _ _ rfl
          exact issues ⟨_, _, _, _, _, rfl⟩
        rw [ServiceRun.step, recordsOf_eq_nil noIssue, List.append_nil]
        exact recorded_of_noneAdded recorded (keeps_callFaulty _ plan run.db)
          (noneAdded_outcome noIssue) _

theorem recorded_after (recorded : Recorded castCidr library run)
    (events : List ServiceEvent) :
    Recorded castCidr library (run.after castCidr library events) := by
  induction events generalizing run with
  | nil => exact recorded
  | cons event rest inductionHypothesis =>
      exact inductionHypothesis (recorded_step recorded event)

end NetworkManager.IdentityStore
