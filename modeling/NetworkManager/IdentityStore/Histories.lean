import Mathlib.Data.List.Induction
import NetworkManager.IdentityStore.Credentials

/-!
# What the calls of a run say

The credentials and the bindings of a run, told by its calls alone.  A
credential is alive if a call issued it and no later call revoked it or disabled
its account, and an account is bound to the roles that calls bound it to.  What
the tables hold is what the calls say.
-/

namespace NetworkManager.IdentityStore

open NetworkManager.Foundation
open NetworkManager.Security.Token
open NetworkManager.Transaction

/-- The call is to disable the account of the record, or to revoke its
credential. -/
def ServiceCall.Ends (record : IssueRecord) : ServiceCall → Prop
  | .disableAccount organizationId accountId =>
      organizationId = record.organizationId ∧ accountId = record.accountId
  | .revokeCredential organizationId accountId credentialId =>
      organizationId = record.organizationId ∧
        accountId = record.accountId ∧ credentialId = record.credentialId
  | _ => False

/-- A role that is bound to the account, at any site or at all of them, holds
the permission. -/
def Rbac.Bound (rbac : Rbac) (organizationId accountId : Uuid)
    (code : String) : Prop :=
  ∃ binding ∈ rbac.roleBindings.rows,
    binding.organizationId = organizationId ∧
      binding.serviceAccountId = some accountId ∧
      rbac.holds binding.roleId code = true

section Histories

variable (castCidr : String → Option Cidr) (library : TokenLibrary)

/-- The event is a call, and the call returns a result. -/
def ServiceRun.Answers (run : ServiceRun) (event : ServiceEvent)
    (call : ServiceCall) (result : ServiceResult call) : Prop :=
  ∃ plan, event = .call call plan ∧
    (run.outcome castCidr library call plan).1 = .ok result

/-- At a place of the events there is a call that returned a result. -/
def ServiceRun.ReturnsAt (start : ServiceRun) (events : List ServiceEvent)
    (place : Nat) (call : ServiceCall) (result : ServiceResult call) : Prop :=
  ∃ event, events[place]? = some event ∧
    (start.after castCidr library (events.take place)).Answers castCidr library
      event call result

/-- The event is a call that issues the credential of the record. -/
def IssueRecord.IssuedBy (run : ServiceRun) (event : ServiceEvent)
    (record : IssueRecord) : Prop :=
  ∃ random, run.Answers castCidr library event
    (.issueCredential record.credentialId random record.organizationId
      record.accountId record.input) ⟨record.credentialId, record.token⟩

/-- At a place of the events the credential of the record was issued. -/
def IssueRecord.IssuedAt (start : ServiceRun) (events : List ServiceEvent)
    (place : Nat) (record : IssueRecord) : Prop :=
  ∃ random, start.ReturnsAt castCidr library events place
    (.issueCredential record.credentialId random record.organizationId
      record.accountId record.input) ⟨record.credentialId, record.token⟩

/-- The credential of the record was issued, and no call after that revoked it
or disabled its account. -/
def IssueRecord.Alive (start : ServiceRun) (events : List ServiceEvent)
    (record : IssueRecord) : Prop :=
  ∃ issued, record.IssuedAt castCidr library start events issued ∧
    ∀ later call result, issued < later →
      start.ReturnsAt castCidr library events later call result →
      ¬ call.Ends record

/-- The account was bound to the role at the start, or a call bound it. -/
def ServiceRun.Binds (start : ServiceRun) (events : List ServiceEvent)
    (organizationId accountId roleId : Uuid) : Prop :=
  (∃ binding ∈ start.db.rbac.roleBindings.rows,
    binding.organizationId = organizationId ∧
      binding.serviceAccountId = some accountId ∧ binding.roleId = roleId) ∨
  ∃ place bindingId siteId, start.ReturnsAt castCidr library events place
    (.bindRole bindingId organizationId accountId roleId siteId) ()

/-- A role that the account is bound to holds the permission.  No call of the
store changes what a role holds. -/
def ServiceRun.Holds (start : ServiceRun) (events : List ServiceEvent)
    (organizationId accountId : Uuid) (code : String) : Prop :=
  ∃ roleId, start.Binds castCidr library events organizationId accountId
    roleId ∧ start.db.rbac.holds roleId code = true

end Histories

variable {castCidr : String → Option Cidr} {library : TokenLibrary}
  {db after : ServiceAccountDb} {start run : ServiceRun}
  {record : IssueRecord} {now : Timestamp} {events : List ServiceEvent}
  {event : ServiceEvent} {place : Nat} {call : ServiceCall}
  {result : ServiceResult call}

private theorem after_append_singleton :
    start.after castCidr library (events ++ [event]) =
      (start.after castCidr library events).step castCidr library event :=
  List.foldl_append

/-- A call of a longer run is one of the shorter run, or the last event. -/
theorem returnsAt_append_singleton :
    start.ReturnsAt castCidr library (events ++ [event]) place call result ↔
      start.ReturnsAt castCidr library events place call result ∨
        place = events.length ∧
          (start.after castCidr library events).Answers castCidr library event
            call result := by
  constructor
  · rintro ⟨found, isEvent, answers⟩
    rcases Nat.lt_or_ge place events.length with earlier | late
    · rw [List.getElem?_append_left earlier] at isEvent
      rw [List.take_append_of_le_length earlier.le] at answers
      exact Or.inl ⟨found, isEvent, answers⟩
    · obtain ⟨inside, _⟩ := List.getElem?_eq_some_iff.mp isEvent
      rw [List.length_append, List.length_singleton] at inside
      obtain rfl : place = events.length := by omega
      rw [List.getElem?_concat_length, Option.some.injEq] at isEvent
      rw [List.take_left, ← isEvent] at answers
      exact Or.inr ⟨rfl, answers⟩
  · rintro (⟨found, isEvent, answers⟩ | ⟨rfl, answers⟩)
    · obtain ⟨earlier, _⟩ := List.getElem?_eq_some_iff.mp isEvent
      refine ⟨found, ?_, ?_⟩
      · rw [List.getElem?_append_left earlier, isEvent]
      · rw [List.take_append_of_le_length earlier.le]
        exact answers
    · refine ⟨event, List.getElem?_concat_length, ?_⟩
      rw [List.take_left]
      exact answers

private theorem ServiceRun.ReturnsAt.lt_length
    (returns : start.ReturnsAt castCidr library events place call result) :
    place < events.length := by
  obtain ⟨_, isEvent, _⟩ := returns
  exact (List.getElem?_eq_some_iff.mp isEvent).1

private theorem issuedAt_append_singleton :
    record.IssuedAt castCidr library start (events ++ [event]) place ↔
      record.IssuedAt castCidr library start events place ∨
        place = events.length ∧ record.IssuedBy castCidr library
          (start.after castCidr library events) event := by
  simp only [IssueRecord.IssuedAt, IssueRecord.IssuedBy,
    returnsAt_append_singleton, exists_or, exists_and_left]

/-- A credential is alive after an event that issues it, or does not end it. -/
theorem alive_append_singleton :
    record.Alive castCidr library start (events ++ [event]) ↔
      record.IssuedBy castCidr library (start.after castCidr library events)
          event ∨
        record.Alive castCidr library start events ∧
          ∀ call result, (start.after castCidr library events).Answers castCidr
            library event call result → ¬ call.Ends record := by
  constructor
  · rintro ⟨issued, isIssued, spared⟩
    rcases issuedAt_append_singleton.mp isIssued with old | ⟨_, new⟩
    · have ⟨_, returned⟩ := old
      refine Or.inr ⟨⟨issued, old, ?_⟩, ?_⟩
      · intro later call result after returns
        exact spared later call result after
          (returnsAt_append_singleton.mpr (Or.inl returns))
      · intro call result answers
        exact spared events.length call result returned.lt_length
          (returnsAt_append_singleton.mpr (Or.inr ⟨rfl, answers⟩))
    · exact Or.inl new
  · rintro (new | ⟨⟨issued, isIssued, spared⟩, sparedNow⟩)
    · refine ⟨events.length,
        issuedAt_append_singleton.mpr (Or.inr ⟨rfl, new⟩), ?_⟩
      intro later call result after returns
      have inside := returns.lt_length
      rw [List.length_append, List.length_singleton] at inside
      omega
    · refine ⟨issued, issuedAt_append_singleton.mpr (Or.inl isIssued), ?_⟩
      intro later call result after returns
      rcases returnsAt_append_singleton.mp returns with old | ⟨_, answers⟩
      · exact spared later call result after old
      · exact sparedNow call result answers

/-- The row of a record holds what was issued. -/
theorem IssueRecord.Stored.columns_of_lookup {row : CredentialRow}
    (stored : record.Stored castCidr library db)
    (found : db.credentials.lookup record.credentialId = some row) :
    ∃ inserted, record.columns.row castCidr = .ok inserted ∧
      row.SameGrant inserted ∧
      row.tokenHash = record.token.hash.bytes ∧
      row.tokenPrefix = record.token.visiblePrefix ∧
      row.serviceAccountId = record.accountId ∧
      row.scopes = record.input.scopes := by
  obtain ⟨stored, inserted, isStored, isInserted, sameGrant⟩ := stored.row
  rw [found, Option.some.injEq] at isStored
  subst isStored
  refine ⟨inserted, isInserted, sameGrant, ?_⟩
  obtain ⟨allowedCidrs, expiresAt, _, _, rfl⟩ :=
    CredentialColumns.row_eq_ok isInserted
  refine ⟨?_, ?_, ?_, ?_⟩
  all_goals
    rw [sameGrant]
    rfl

/-- Disabling an account ends its records, also if it was disabled before. -/
theorem call_disableAccount_ok {changed : Bool}
    (stored : record.Stored castCidr library db)
    (accepted : (disableAccount castCidr now record.organizationId
      record.accountId).call db = (.ok changed, after)) :
    record.Ended after := by
  obtain ⟨account, found, owned⟩ := stored.account
  have isAccount : db.account record.accountId record.organizationId =
      some account := by
    simp [ServiceAccountDb.account, found, Option.filter, owned]
  by_cases disabled : account.status = .disabled
  · have ended : record.Ended db := Or.inr ⟨account, found, disabled⟩
    have keeps := keeps_callFaulty (disableAccount castCidr now
      record.organizationId record.accountId) [] db
    have reached : ((disableAccount castCidr now record.organizationId
        record.accountId).callFaulty [] db).2 = after :=
      congrArg Prod.snd accepted
    exact ended.keeps (reached ▸ keeps)
  · have answer : execDisableAccount record.accountId record.organizationId db =
        (1, [.accountDisabled record.accountId]) := by
      simp [execDisableAccount, isAccount, Option.filter, disabled]
    obtain ⟨final, ended, rfl⟩ := Program.call_eq_ok accepted
    obtain ⟨updated, _, ran, ended⟩ := Program.eval_bind_eq_ok ended
    obtain ⟨writes, answered, rfl⟩ := Program.eval_statement_eq_ok ran
    have isAnswer : (1, [Write.accountDisabled record.accountId]) =
        (updated, writes) := answer.symm.trans (Except.ok.inj answered)
    cases isAnswer
    obtain ⟨_, _, ran, ended⟩ := Program.eval_bind_eq_ok ended
    obtain ⟨_, revoked, rfl⟩ := Program.eval_statement_eq_ok ran
    cases revoked
    obtain ⟨_, _, ran, ended⟩ := Program.eval_bind_eq_ok ended
    have isFinal := Program.eval_commitNow_eq_ok ran
    obtain ⟨_, rfl⟩ := Program.eval_pure_eq_ok ended
    have accounts : final.committed.accounts =
        (applyWrite (.accountDisabled record.accountId) db).accounts := by
      rw [isFinal]
      rfl
    refine Or.inr ⟨account.disable, ?_, rfl⟩
    have sameId : account.id = record.accountId := Table.key_of_lookup found
    rw [accounts, applyWrite, Table.lookup_update, found]
    simp [sameId]

/-- Revoking a credential ends its record, also if it was revoked before. -/
theorem call_revokeCredential_ok {changed : Bool}
    (stored : record.Stored castCidr library db)
    (accepted : (revokeCredential castCidr now record.organizationId
      record.accountId record.credentialId).call db = (.ok changed, after)) :
    record.Ended after := by
  obtain ⟨account, isAccount, owned⟩ := stored.account
  obtain ⟨row, _, found, _⟩ := stored.row
  obtain ⟨_, _, _, _, _, sameAccount, _⟩ := stored.columns_of_lookup found
  by_cases revoked : row.revokedAt.isSome
  · have ended : record.Ended db := Or.inl ⟨row, found, revoked⟩
    have keeps := keeps_callFaulty (revokeCredential castCidr now
      record.organizationId record.accountId record.credentialId) [] db
    have reached : ((revokeCredential castCidr now record.organizationId
        record.accountId record.credentialId).callFaulty [] db).2 = after :=
      congrArg Prod.snd accepted
    exact ended.keeps (reached ▸ keeps)
  · have isOwned :
        db.isServiceAccount row.serviceAccountId record.organizationId = true := by
      simp [ServiceAccountDb.isServiceAccount, ServiceAccountDb.account,
        sameAccount, isAccount, Option.filter, owned]
    have answer : execRevokeCredential record.credentialId record.accountId
        record.organizationId now db =
          (1, [.credentialRevoked record.credentialId now]) := by
      have unrevoked : row.revokedAt = none := by simpa using revoked
      simp [execRevokeCredential, found, Option.filter, sameAccount ▸ isOwned,
        sameAccount, unrevoked]
    obtain ⟨final, ended, rfl⟩ := Program.call_eq_ok accepted
    obtain ⟨updated, _, ran, ended⟩ := Program.eval_bind_eq_ok ended
    obtain ⟨writes, answered, rfl⟩ := Program.eval_statement_eq_ok ran
    have isAnswer : (1, [Write.credentialRevoked record.credentialId now]) =
        (updated, writes) := answer.symm.trans (Except.ok.inj answered)
    cases isAnswer
    obtain ⟨_, _, ran, ended⟩ := Program.eval_bind_eq_ok ended
    have isFinal := Program.eval_commitNow_eq_ok ran
    obtain ⟨_, rfl⟩ := Program.eval_pure_eq_ok ended
    have credentials : final.committed.credentials = (applyWrite
        (.credentialRevoked record.credentialId now) db).credentials := by
      rw [isFinal]
      rfl
    refine Or.inl ⟨row.revoke now, ?_, rfl⟩
    have sameId : row.id = record.credentialId := Table.key_of_lookup found
    rw [credentials, applyWrite, Table.lookup_update, found]
    simp [sameId]

private theorem ended_of_outcome
    {call : ServiceCall} {plan : List (Option SqlError)}
    {result : ServiceResult call}
    (stored : record.Stored castCidr library run.db) (ends : call.Ends record)
    (accepted : (run.outcome castCidr library call plan).1 = .ok result) :
    record.Ended (run.outcome castCidr library call plan).2 := by
  cases call with
  | disableAccount organizationId accountId =>
      obtain ⟨rfl, rfl⟩ := ends
      exact call_disableAccount_ok stored
        (Program.callFaulty_ok (Prod.ext accepted rfl))
  | revokeCredential organizationId accountId credentialId =>
      obtain ⟨rfl, rfl, rfl⟩ := ends
      exact call_revokeCredential_ok stored
        (Program.callFaulty_ok (Prod.ext accepted rfl))
  | createAccount accountId organizationId name => exact ends.elim
  | issueCredential credentialId random organizationId accountId input =>
      exact ends.elim
  | bindRole bindingId organizationId accountId roleId siteId =>
      exact ends.elim
  | authenticate token sourceIp => exact ends.elim


/-- Disabling an account of another organization changes nothing. -/
theorem call_disableAccount_other {organizationId accountId : Uuid}
    {changed : Bool} (other : db.account accountId organizationId = none)
    (accepted : (disableAccount castCidr now organizationId accountId).call db =
      (.ok changed, after)) :
    after = db := by
  have answer : execDisableAccount accountId organizationId db = (0, []) := by
    simp [execDisableAccount, other]
  obtain ⟨final, ended, rfl⟩ := Program.call_eq_ok accepted
  obtain ⟨updated, _, ran, ended⟩ := Program.eval_bind_eq_ok ended
  obtain ⟨writes, answered, rfl⟩ := Program.eval_statement_eq_ok ran
  cases answer.symm.trans (Except.ok.inj answered)
  obtain ⟨_, _, ran, ended⟩ := Program.eval_bind_eq_ok ended
  have isFinal := Program.eval_commitNow_eq_ok ran
  obtain ⟨_, rfl⟩ := Program.eval_pure_eq_ok ended
  rw [isFinal]
  rfl

/-! ## What spares a credential -/

/-- The write leaves the credential of the record in use. -/
def Write.Spares (record : IssueRecord) : Write → Prop
  | .accountDisabled accountId => accountId ≠ record.accountId
  | .credentialsRevoked accountId _ => accountId ≠ record.accountId
  | .credentialRevoked credentialId _ => credentialId ≠ record.credentialId
  | _ => True

def Statement.Spares (record : IssueRecord) : Statement → Prop
  | .disableAccount accountId organizationId =>
      ¬ (organizationId = record.organizationId ∧ accountId = record.accountId)
  | .revokeCredentials accountId _ => accountId ≠ record.accountId
  | .revokeCredential credentialId accountId organizationId _ =>
      ¬ (organizationId = record.organizationId ∧
        accountId = record.accountId ∧ credentialId = record.credentialId)
  | _ => True

theorem not_ended_iff {row : CredentialRow} {account : AccountRow}
    (isRow : db.credentials.lookup record.credentialId = some row)
    (isAccount : db.accounts.lookup record.accountId = some account) :
    ¬ record.Ended db ↔ row.revokedAt = none ∧ account.status = .active := by
  have notDisabled : account.status ≠ .disabled ↔ account.status = .active := by
    cases account.status <;> simp
  rw [IssueRecord.Ended, isRow, isAccount, not_or, ← notDisabled]
  simp

/-- Whether a record has ended is told by when its credential was revoked, and
by the status of its account. -/
theorem not_ended_congr {db after : ServiceAccountDb}
    (inUse : ¬ record.Ended db)
    (sameRevocation :
      (after.credentials.lookup record.credentialId).map
          CredentialRow.revokedAt =
        (db.credentials.lookup record.credentialId).map
          CredentialRow.revokedAt)
    (sameStatus :
      (after.accounts.lookup record.accountId).map AccountRow.status =
        (db.accounts.lookup record.accountId).map AccountRow.status) :
    ¬ record.Ended after := by
  have told : ∀ state : ServiceAccountDb, record.Ended state ↔
      (∃ revokedAt, (state.credentials.lookup record.credentialId).map
          CredentialRow.revokedAt = some revokedAt ∧ revokedAt.isSome) ∨
        (state.accounts.lookup record.accountId).map AccountRow.status =
          some .disabled := by
    intro state
    simp [IssueRecord.Ended]
  rw [told, sameRevocation, sameStatus, ← told]
  exact inUse

private theorem not_ended_applyWrite {write : Write}
    (stored : record.Stored castCidr library db) (isNew : write.New db)
    (spares : write.Spares record) (inUse : ¬ record.Ended db) :
    ¬ record.Ended (applyWrite write db) := by
  obtain ⟨row, _, isRow, _⟩ := stored.row
  obtain ⟨account, isAccount, _⟩ := stored.account
  obtain ⟨_, _, _, _, _, sameAccount, _⟩ := stored.columns_of_lookup isRow
  have rowId : row.id = record.credentialId := Table.key_of_lookup isRow
  have accountId : account.id = record.accountId :=
    Table.key_of_lookup isAccount
  cases write with
  | account added =>
      have different : added.id ≠ record.accountId := by
        intro same
        rw [Write.New, same, isAccount] at isNew
        cases isNew
      refine not_ended_congr inUse rfl ?_
      rw [applyWrite, Table.lookup_put_of_ne different]
  | accountDisabled disabled =>
      have different : account.id ≠ disabled := accountId ▸ Ne.symm spares
      refine not_ended_congr inUse rfl ?_
      simp [applyWrite, Table.lookup_update, isAccount, different]
  | credential added =>
      have different : added.id ≠ record.credentialId := by
        intro same
        rw [Write.New, same, isRow] at isNew
        cases isNew
      refine not_ended_congr inUse ?_ rfl
      rw [applyWrite, Table.lookup_put_of_ne different]
  | credentialsRevoked revoked time =>
      have different : row.serviceAccountId ≠ revoked :=
        sameAccount ▸ Ne.symm spares
      refine not_ended_congr inUse ?_ rfl
      simp [applyWrite, Table.lookup_update, isRow, different]
  | credentialRevoked revoked time =>
      have different : row.id ≠ revoked := rowId ▸ Ne.symm spares
      refine not_ended_congr inUse ?_ rfl
      simp [applyWrite, Table.lookup_update, isRow, different]
  | credentialUsed used time =>
      refine not_ended_congr inUse ?_ rfl
      by_cases same : row.id = used
      · simp [applyWrite, Table.lookup_update, isRow, same, CredentialRow.use]
      · simp [applyWrite, Table.lookup_update, isRow, same]
  | binding added => exact inUse

variable {statement : Statement} {reply : Reply statement}
  {writes : List Write}

/-- An account is disabled, and a credential revoked, only under the
organization that it is of. -/
theorem spares_of_exec (stored : record.Stored castCidr library db)
    (spares : statement.Spares record)
    (answered : (serviceAccountSql castCidr).exec statement db =
      .ok (reply, writes)) :
    ∀ write ∈ writes, write.Spares record := by
  have owner : ∀ organizationId account,
      db.account record.accountId organizationId = some account →
        organizationId = record.organizationId := by
    intro organizationId account found
    obtain ⟨stored, isStored, owned⟩ := stored.account
    obtain ⟨isAccount, ofOrganization⟩ := Option.filter_eq_some_iff.mp found
    rw [isStored, Option.some.injEq] at isAccount
    rw [← of_decide_eq_true ofOrganization, ← isAccount, owned]
  cases statement with
  | disableAccount accountId organizationId =>
      have isAnswer := Except.ok.inj answered
      unfold execDisableAccount at isAnswer
      split at isAnswer
      · rename_i account found
        cases isAnswer
        intro write member
        rw [List.mem_singleton.mp member]
        rintro rfl
        exact spares ⟨owner organizationId account
          (Option.filter_eq_some_iff.mp found).1, rfl⟩
      · cases isAnswer
        exact fun _ none => absurd none List.not_mem_nil
  | revokeCredential credentialId accountId organizationId time =>
      have isAnswer := Except.ok.inj answered
      unfold execRevokeCredential at isAnswer
      split at isAnswer
      · rename_i row found
        cases isAnswer
        intro write member
        rw [List.mem_singleton.mp member]
        rintro rfl
        obtain ⟨isRow, conditions⟩ := Option.filter_eq_some_iff.mp found
        obtain ⟨_, _, _, _, _, sameAccount, _⟩ := stored.columns_of_lookup isRow
        rw [sameAccount, Bool.and_eq_true, Bool.and_eq_true] at conditions
        obtain ⟨⟨isAccount, owned⟩, _⟩ := conditions
        obtain ⟨account, isOwned⟩ := Option.isSome_iff_exists.mp owned
        exact spares ⟨owner organizationId account isOwned,
          (of_decide_eq_true isAccount).symm, rfl⟩
      · cases isAnswer
        exact fun _ none => absurd none List.not_mem_nil
  | _ =>
      rcases exec_writes answered with rfl | ⟨write, rfl, _, makes⟩
      · exact fun _ none => absurd none List.not_mem_nil
      · intro written member
        rw [List.mem_singleton.mp member]
        cases write <;> first | trivial | exact makes ▸ spares

private theorem not_ended_exec (stored : record.Stored castCidr library db)
    (spares : statement.Spares record) (inUse : ¬ record.Ended db)
    (answered : (serviceAccountSql castCidr).exec statement db =
      .ok (reply, writes)) :
    ¬ record.Ended ((serviceAccountSql castCidr).applyAll writes db) := by
  have sparing := spares_of_exec stored spares answered
  rcases exec_writes answered with rfl | ⟨write, rfl, isNew, _⟩
  · exact inUse
  · exact not_ended_applyWrite stored isNew
      (sparing write List.mem_cons_self) inUse

/-- A call that is not to end the record runs statements that spare it, unless
it is to disable the account under another organization. -/
theorem spares_of_uses (notEnds : ¬ call.Ends record)
    (otherAccount : ∀ organizationId,
      call ≠ .disableAccount organizationId record.accountId)
    (uses : call.Uses statement) : statement.Spares record := by
  cases statement with
  | disableAccount accountId organizationId =>
      cases call with
      | disableAccount _ _ =>
          obtain ⟨rfl, rfl⟩ := uses
          exact notEnds
      | _ => exact uses.elim
  | revokeCredentials accountId time =>
      cases call with
      | disableAccount organizationId _ =>
          obtain rfl := uses
          rintro rfl
          exact otherAccount organizationId rfl
      | _ => exact uses.elim
  | revokeCredential credentialId accountId organizationId time =>
      cases call with
      | revokeCredential _ _ _ =>
          obtain ⟨rfl, rfl, rfl⟩ := uses
          exact notEnds
      | _ => exact uses.elim
  | _ => trivial

/-- A credential that is in use is so after a call, unless the call returns and
is to end it. -/
theorem not_ended_outcome {plan : List (Option SqlError)}
    (stored : record.Stored castCidr library run.db)
    (inUse : ¬ record.Ended run.db)
    (spared : ∀ result, (run.outcome castCidr library call plan).1 =
      .ok result → ¬ call.Ends record) :
    ¬ record.Ended (run.outcome castCidr library call plan).2 := by
  rcases ended : run.outcome castCidr library call plan with ⟨outcome, after⟩
  cases outcome with
  | error failure =>
      obtain rfl := Program.callFaulty_error
        (commitsLast_serviceClient run.clock call) ended
      exact inUse
  | ok result =>
      have notEnds := spared result (congrArg Prod.fst ended)
      by_cases disables : ∃ organizationId,
          call = .disableAccount organizationId record.accountId
      · obtain ⟨organizationId, rfl⟩ := disables
        obtain ⟨account, isAccount, owned⟩ := stored.account
        have other : run.db.account record.accountId organizationId = none := by
          have different : account.organizationId ≠ organizationId :=
            fun same => notEnds ⟨same.symm.trans owned, rfl⟩
          simp [ServiceAccountDb.account, isAccount, Option.filter, different]
        obtain rfl :=
          call_disableAccount_other other (Program.callFaulty_ok ended)
        exact inUse
      · have kept : record.Stored castCidr library
              (run.outcome castCidr library call plan).2 ∧
            ¬ record.Ended (run.outcome castCidr library call plan).2 := by
          refine keeps_outcome (fun state => record.Stored castCidr library
            state ∧ ¬ record.Ended state) ?_ ⟨stored, inUse⟩
          rintro query state reply writes uses ⟨stored, inUse⟩ answered
          have spares := spares_of_uses notEnds
            (fun organizationId same => disables ⟨organizationId, same⟩) uses
          exact ⟨stored.keeps (keeps_exec answered),
            not_ended_exec stored spares inUse answered⟩
        rw [ended] at kept
        exact kept.2

/-! ## Runs -/

private theorem ended_step_iff
    (stored : record.Stored castCidr library run.db) :
    record.Ended (run.step castCidr library event).db ↔
      record.Ended run.db ∨
        ∃ call result, run.Answers castCidr library event call result ∧
          call.Ends record := by
  constructor
  · intro endedNow
    by_contra neither
    rw [not_or] at neither
    obtain ⟨inUse, spared⟩ := neither
    cases event with
    | advance elapsed => exact inUse endedNow
    | call call plan =>
        apply not_ended_outcome stored inUse _ endedNow
        intro result answered ends
        exact spared ⟨call, result, ⟨plan, rfl, answered⟩, ends⟩
  · rintro (ended | ⟨call, result, ⟨plan, rfl, answered⟩, ends⟩)
    · exact ended.keeps (keeps_step event)
    · exact ended_of_outcome stored ends answered

/-- The records of a state are those of the calls that issued a credential. -/
theorem mem_issued_step :
    record ∈ (run.step castCidr library event).issued ↔
      record ∈ run.issued ∨ record.IssuedBy castCidr library run event := by
  cases event with
  | advance elapsed =>
      have notCall : ¬ record.IssuedBy castCidr library run
          (.advance elapsed) := by
        rintro ⟨_, _, isCall, _⟩
        cases isCall
      exact (or_iff_left notCall).symm
  | call call plan =>
      have appended : (run.step castCidr library (.call call plan)).issued =
        run.issued ++
          recordsOf call (run.outcome castCidr library call plan).1 := rfl
      rw [appended, List.mem_append]
      apply or_congr_right
      constructor
      · intro member
        cases call with
        | issueCredential credentialId random organizationId accountId input =>
            rcases ended : run.outcome castCidr library (.issueCredential
                credentialId random organizationId accountId input) plan with
              ⟨outcome, after⟩
            rw [ended] at member
            cases outcome with
            | error failure => cases member
            | ok issued =>
                obtain ⟨issuedId, token⟩ := issued
                obtain ⟨_, _, rfl, _⟩ :=
                  call_issueCredential_ok (Program.callFaulty_ok ended)
                cases List.mem_singleton.mp member
                exact ⟨random, plan, rfl, congrArg Prod.fst ended⟩
        | _ => cases member
      · rintro ⟨random, _, isCall, answered⟩
        obtain ⟨rfl, rfl⟩ := ServiceEvent.call.inj isCall
        rw [answered]
        exact List.mem_singleton.mpr rfl

private theorem not_ended_of_issuedBy
    (issued : record.IssuedBy castCidr library run event) :
    ¬ record.Ended (run.step castCidr library event).db := by
  obtain ⟨random, plan, rfl, answered⟩ := issued
  exact (call_issueCredential_ok
    (Program.callFaulty_ok (Prod.ext answered rfl))).2.1

theorem mem_issued_iff (fresh : start.issued = []) :
    record ∈ (start.after castCidr library events).issued ↔
      ∃ issued, record.IssuedAt castCidr library start events issued := by
  induction events using List.reverseRecOn with
  | nil =>
      have none : (start.after castCidr library []).issued = [] := fresh
      rw [none]
      constructor
      · intro member
        cases member
      · rintro ⟨_, _, returned⟩
        exact absurd returned.lt_length (Nat.not_lt_zero _)
  | append_singleton events event inductionHypothesis =>
      simp only [after_append_singleton, mem_issued_step, inductionHypothesis,
        issuedAt_append_singleton, exists_or, exists_eq_left]

/-- The records of the credentials that are alive are those that have not
ended. -/
theorem alive_iff (recorded : Recorded castCidr library start)
    (fresh : start.issued = []) :
    record.Alive castCidr library start events ↔
      record ∈ (start.after castCidr library events).issued ∧
        ¬ record.Ended (start.after castCidr library events).db := by
  induction events using List.reverseRecOn with
  | nil =>
      have none : (start.after castCidr library []).issued = [] := fresh
      rw [none]
      constructor
      · rintro ⟨_, ⟨_, returned⟩, _⟩
        exact absurd returned.lt_length (Nat.not_lt_zero _)
      · rintro ⟨member, _⟩
        cases member
  | append_singleton events event inductionHypothesis =>
      rw [alive_append_singleton, inductionHypothesis, after_append_singleton,
        mem_issued_step]
      by_cases issues : record.IssuedBy castCidr library
          (start.after castCidr library events) event
      · simp [issues, not_ended_of_issuedBy issues]
      · simp only [issues, false_or, or_false, and_assoc]
        apply and_congr_right
        intro member
        rw [ended_step_iff ((recorded_after recorded events).stored record
          member), not_or]
        simp only [not_exists, not_and]

/-- A credential that a call ended after it was issued has ended. -/
theorem ended_of_returnsAt {issued : Nat}
    (recorded : Recorded castCidr library start) (fresh : start.issued = [])
    (isIssued : record.IssuedAt castCidr library start events issued)
    (later : issued < place)
    (returns : start.ReturnsAt castCidr library events place call result)
    (ends : call.Ends record) :
    record.Ended (start.after castCidr library events).db := by
  induction events using List.reverseRecOn with
  | nil => exact absurd returns.lt_length (Nat.not_lt_zero _)
  | append_singleton events event inductionHypothesis =>
      have issuedBefore :
          record.IssuedAt castCidr library start events issued := by
        rcases issuedAt_append_singleton.mp isIssued with old | ⟨rfl, _⟩
        · exact old
        · have inside := returns.lt_length
          rw [List.length_append, List.length_singleton] at inside
          omega
      have stored := (recorded_after recorded events).stored record
        ((mem_issued_iff fresh).mpr ⟨issued, issuedBefore⟩)
      rw [after_append_singleton, ended_step_iff stored]
      rcases returnsAt_append_singleton.mp returns with old | ⟨_, answers⟩
      · exact Or.inl (inductionHypothesis issuedBefore old)
      · exact Or.inr ⟨call, result, answers, ends⟩

private theorem rbac_of_not_bindRole {plan : List (Option SqlError)}
    (noBinding : ∀ bindingId organizationId accountId roleId siteId, call ≠
      .bindRole bindingId organizationId accountId roleId siteId) :
    (run.outcome castCidr library call plan).2.rbac = run.db.rbac := by
  refine keeps_outcome (fun state => state.rbac = run.db.rbac) ?_ rfl
  intro query state reply writes uses same answered
  rcases exec_writes answered with rfl | ⟨write, rfl, _, makes⟩
  · exact same
  · cases write with
    | binding row =>
        cases query with
        | insertBinding _ =>
            cases call with
            | bindRole _ _ _ _ _ => exact absurd rfl (noBinding _ _ _ _ _)
            | _ => exact uses.elim
        | _ => exact makes.elim
    | _ => exact same

private theorem call_bindRole_ok
    {bindingId organizationId accountId roleId : Uuid}
    {siteId : Option Uuid}
    (accepted : (bindRole castCidr bindingId organizationId accountId roleId
      siteId).call db = (.ok (), after)) :
    db.rbac.roleBindings.lookup bindingId = none ∧
      after = applyWrite (.binding ⟨bindingId, organizationId, roleId, none,
        some accountId, siteId⟩) db := by
  obtain ⟨final, ended, rfl⟩ := Program.call_eq_ok accepted
  obtain ⟨_, _, ran, ended⟩ := Program.eval_bind_eq_ok ended
  obtain ⟨writes, answered, rfl⟩ := Program.eval_statement_eq_ok ran
  obtain ⟨rfl, isNew⟩ := execInsertBinding_eq_ok answered
  rw [Program.eval_commitNow_eq_ok ended]
  exact ⟨isNew, rfl⟩

private theorem bound_applyWrite {row : BindingRow}
    {organizationId accountId : Uuid} {code : String}
    (isNew : db.rbac.roleBindings.lookup row.id = none) :
    (applyWrite (.binding row) db).rbac.Bound organizationId accountId code ↔
      db.rbac.Bound organizationId accountId code ∨
        row.organizationId = organizationId ∧
          row.serviceAccountId = some accountId ∧
          db.rbac.holds row.roleId code = true := by
  have rows : (applyWrite (.binding row) db).rbac.roleBindings.rows =
      db.rbac.roleBindings.rows ++ [row] :=
    Table.rows_put_of_lookup_none isNew
  unfold Rbac.Bound
  rw [rows]
  simp only [List.mem_append, List.mem_singleton, or_and_right, exists_or,
    exists_eq_left]
  exact Iff.rfl

/-- A permission is bound after a call if it was before, or if the call bound a
role that holds it. -/
theorem bound_outcome_bindRole {plan : List (Option SqlError)}
    {bindingId organization account roleId organizationId accountId : Uuid}
    {siteId : Option Uuid} {code : String} :
    (run.outcome castCidr library (.bindRole bindingId organization account
        roleId siteId) plan).2.rbac.Bound organizationId accountId code ↔
      run.db.rbac.Bound organizationId accountId code ∨
        (run.outcome castCidr library (.bindRole bindingId organization account
            roleId siteId) plan).1 = .ok () ∧
          organization = organizationId ∧ account = accountId ∧
          run.db.rbac.holds roleId code = true := by
  rcases ended : run.outcome castCidr library (.bindRole bindingId organization
      account roleId siteId) plan with ⟨outcome, after⟩
  cases outcome with
  | error failure =>
      obtain rfl := Program.callFaulty_error
        (commitsLast_serviceClient run.clock (.bindRole bindingId organization
          account roleId siteId)) ended
      simp
  | ok result =>
      obtain ⟨isNew, rfl⟩ := call_bindRole_ok (Program.callFaulty_ok ended)
      rw [bound_applyWrite isNew]
      simp

private theorem bound_step {organizationId accountId : Uuid} {code : String} :
    (run.step castCidr library event).db.rbac.Bound organizationId accountId
        code ↔
      run.db.rbac.Bound organizationId accountId code ∨
        ∃ roleId, (∃ bindingId siteId, run.Answers castCidr library event
          (.bindRole bindingId organizationId accountId roleId siteId) ()) ∧
            run.db.rbac.holds roleId code = true := by
  have notBound : (∀ bindingId organization account roleId siteId plan,
        event ≠ .call (.bindRole bindingId organization account roleId siteId)
          plan) →
      ¬ ∃ roleId, (∃ bindingId siteId, run.Answers castCidr library event
        (.bindRole bindingId organizationId accountId roleId siteId) ()) ∧
          run.db.rbac.holds roleId code = true := by
    rintro noBinding ⟨roleId, ⟨bindingId, siteId, plan, isCall, _⟩, _⟩
    exact noBinding _ _ _ _ _ _ isCall
  cases event with
  | advance elapsed =>
      rw [or_iff_left (notBound fun _ _ _ _ _ _ isCall => by cases isCall)]
      exact Iff.rfl
  | call call plan =>
      by_cases binds : ∃ bindingId organization account roleId siteId,
          call = .bindRole bindingId organization account roleId siteId
      · obtain ⟨bindingId, organization, account, roleId, siteId, rfl⟩ := binds
        refine bound_outcome_bindRole.trans (or_congr_right ?_)
        constructor
        · rintro ⟨answered, rfl, rfl, holds⟩
          exact ⟨roleId, ⟨bindingId, siteId, plan, rfl, answered⟩, holds⟩
        · rintro ⟨_, ⟨_, _, _, isCall, answered⟩, holds⟩
          cases isCall
          exact ⟨answered, rfl, rfl, holds⟩
      · have same : (run.step castCidr library (.call call plan)).db.rbac =
            run.db.rbac :=
          rbac_of_not_bindRole fun _ _ _ _ _ isCall =>
            binds ⟨_, _, _, _, _, isCall⟩
        have noBinding := notBound fun _ _ _ _ _ _ isCall =>
          binds ⟨_, _, _, _, _, (ServiceEvent.call.inj isCall).1⟩
        rw [same, or_iff_left noBinding]

/-- No call changes what a role holds. -/
theorem holds_after (events : List ServiceEvent) (roleId : Uuid)
    (code : String) :
    (run.after castCidr library events).db.rbac.holds roleId code =
      run.db.rbac.holds roleId code := by
  induction events generalizing run with
  | nil => rfl
  | cons event rest inductionHypothesis =>
      refine inductionHypothesis.trans ?_
      cases event with
      | advance elapsed => rfl
      | call call plan =>
          refine keeps_outcome (fun state => state.rbac.holds roleId code =
            run.db.rbac.holds roleId code) ?_ rfl
          intro query state reply writes _ same answered
          rcases exec_writes answered with rfl | ⟨write, rfl, _⟩
          · exact same
          · cases write <;> exact same

private theorem binds_append_singleton
    {organizationId accountId roleId : Uuid} :
    start.Binds castCidr library (events ++ [event]) organizationId accountId
        roleId ↔
      start.Binds castCidr library events organizationId accountId roleId ∨
        ∃ bindingId siteId,
          (start.after castCidr library events).Answers castCidr library event
            (.bindRole bindingId organizationId accountId roleId siteId) () := by
  simp only [ServiceRun.Binds, returnsAt_append_singleton, exists_or,
    or_assoc, exists_and_left, exists_eq_left]

/-- The permissions that are bound in a state are those that the calls say. -/
theorem bound_iff {organizationId accountId : Uuid} {code : String} :
    (start.after castCidr library events).db.rbac.Bound organizationId accountId
        code ↔
      start.Holds castCidr library events organizationId accountId code := by
  induction events using List.reverseRecOn with
  | nil =>
      constructor
      · rintro ⟨binding, member, sameOrganization, sameAccount, holds⟩
        exact ⟨binding.roleId,
          Or.inl ⟨binding, member, sameOrganization, sameAccount, rfl⟩, holds⟩
      · rintro ⟨roleId, ⟨binding, member, sameOrganization, sameAccount, rfl⟩ |
          ⟨_, _, _, returned⟩, holds⟩
        · exact ⟨binding, member, sameOrganization, sameAccount, holds⟩
        · exact absurd returned.lt_length (Nat.not_lt_zero _)
  | append_singleton events event inductionHypothesis =>
      rw [after_append_singleton, bound_step, inductionHypothesis]
      simp only [ServiceRun.Holds, binds_append_singleton, or_and_right,
        exists_or, holds_after]

end NetworkManager.IdentityStore
