import NetworkManager.Backend.RefreshFailure

/-!
# Tokens and the status of their user

A login looks for an active user.  A refresh does not look at the user of its
session, so a user who is disabled keeps getting tokens from the sessions that
were started before.
-/

namespace NetworkManager.Backend

open NetworkManager.Foundation
open NetworkManager.Security.Token
open NetworkManager.Transaction

/-- A call of the service under some faults, or a change of `users.status`. -/
inductive AccountEvent where
  | call (call : AuthCall) (plan : List (Option SqlError))
  | setStatus (userId : Uuid) (status : UserStatus)

def setStatus (userId : Uuid) (status : UserStatus) (db : AuthDb) : AuthDb :=
  { db with
    users := db.users.update (fun user => user.id = userId)
      (fun user => { user with status }) fun _ => rfl }

/-- The state after an event. -/
def afterEvent (service : AuthService) (db : AuthDb) : AccountEvent → AuthDb
  | .call call plan =>
      (((authClient service).program call).callFaulty plan db).2
  | .setStatus userId status => setStatus userId status db

/-- The events of a run, each with the state it finds. -/
def accountSteps (service : AuthService) :
    AuthDb → List AccountEvent → List (AuthDb × AccountEvent)
  | _, [] => []
  | db, event :: rest =>
      (db, event) :: accountSteps service (afterEvent service db event) rest

/-- The user exists and is active. -/
def HasActive (db : AuthDb) (userId : Uuid) : Prop :=
  ∃ user, db.users.lookup userId = some user ∧ user.status = .active

/-- If the event returns tokens, they are for a user who is active. -/
def IssuesToActive (service : AuthService) (db : AuthDb) :
    AccountEvent → Prop
  | .call (.login context request) plan => ∀ issued,
      ((login service context request).callFaulty plan db).1 = .ok issued →
        HasActive db issued.identity.userId
  | .call (.refresh context presented) plan => ∀ issued,
      ((refresh service context presented).callFaulty plan db).1 =
          .ok issued →
        HasActive db issued.identity.userId
  | _ => True

/-- A login that returns tokens has found an active user. -/
theorem call_login_ok {service : AuthService} {context : CallContext}
    {request : LoginRequest} {db reached : AuthDb} {issued : IssuedSession}
    (accepted : (login service context request).call db =
      (.ok issued, reached)) :
    HasActive db issued.identity.userId := by
  rcases Program.call_eq_ok accepted with ⟨final, ended, _⟩
  rcases Program.eval_bind_eq_ok ended with ⟨_, _, ran, ended⟩
  rcases Program.eval_check_eq_ok ran with ⟨_, rfl⟩
  rcases Program.eval_bind_eq_ok ended with ⟨found, _, ran, ended⟩
  rcases Program.eval_statement_eq_ok ran with ⟨_, selected, rfl⟩
  have isFound : execSelectLoginUser service.lower request.organizationSlug
      request.email db = found :=
    congrArg Prod.fst (Except.ok.inj selected)
  cases found with
  | none =>
      have refused := congrArg Prod.fst ended
      cases refused
  | some loginUser =>
      rw [execSelectLoginUser, Option.map_eq_some_iff] at isFound
      rcases isFound with ⟨user, isUser, rfl⟩
      have isActive : user.status = .active := by
        have selectedUser := List.find?_some isUser
        rw [Bool.and_eq_true] at selectedUser
        exact of_decide_eq_true selectedUser.2
      have member := List.mem_of_find?_eq_some isUser
      rcases Program.eval_bind_eq_ok ended with ⟨_, _, _, ended⟩
      rcases Program.eval_bind_eq_ok ended with ⟨_, _, _, ended⟩
      rcases Program.eval_bind_eq_ok ended with ⟨_, _, _, ended⟩
      rcases Program.eval_bind_eq_ok ended with ⟨_, _, _, ended⟩
      rcases Program.eval_bind_eq_ok ended with ⟨_, _, _, ended⟩
      rcases Program.eval_bind_eq_ok ended with ⟨_, _, _, ended⟩
      rcases Program.eval_bind_eq_ok ended with ⟨_, _, _, ended⟩
      rcases Program.eval_bind_eq_ok ended with ⟨_, _, _, ended⟩
      rcases Program.eval_bind_eq_ok ended with ⟨_, _, _, ended⟩
      rcases Program.eval_pure_eq_ok ended with ⟨rfl, _⟩
      exact ⟨user, Table.lookup_of_mem member, isActive⟩

/-- The refresh rotates the presented token, and nothing fails after that. -/
def Mints (service : AuthService) (context : CallContext) (presented : Bytes)
    (plan : List (Option SqlError)) (db : AuthDb) (token : RefreshTokenRow)
    (session : SessionRow) : Prop :=
  ∃ issued, Rotated service context presented plan db token session issued ∧
    (plan.drop 5).head?.join = none ∧
      ∃ accessToken, issueAccessToken service context
        (sessionIdentity db token session) = .ok accessToken

/-- A refresh returns tokens for the user of the session it rotates. -/
theorem refresh_issues_iff {service : AuthService} {context : CallContext}
    {presented : Bytes} {plan : List (Option SqlError)} {db : AuthDb}
    {userId : Uuid} :
    (∃ issued : IssuedSession, issued.identity.userId = userId ∧
      ((refresh service context presented).callFaulty plan db).1 =
        .ok issued) ↔
      ∃ token session, Mints service context presented plan db token session ∧
        session.userId = userId := by
  rcases issueOpaqueToken_ok service.library csrfPrefix (by simp)
    context.csrfRandom with ⟨csrf, csrfIssued⟩
  constructor
  · rintro ⟨answer, rfl, accepted⟩
    by_cases rotated : ∃ token session issued,
        Rotated service context presented plan db token session issued
    · rcases rotated with ⟨token, session, issued, rotated⟩
      have ended := (congrArg Prod.fst
        (evalFaulty_refresh csrfIssued rotated)).symm.trans accepted
      simp only [rotationAnswer] at ended
      cases planned : (plan.drop 5).head?.join with
      | some fault =>
          rw [planned] at ended
          cases ended
      | none =>
          rw [planned] at ended
          cases encoded : issueAccessToken service context
              (sessionIdentity db token session) with
          | error failure =>
              simp only [encoded] at ended
              cases ended
          | ok accessToken =>
              simp only [encoded] at ended
              cases ended
              exact ⟨token, session,
                ⟨issued, rotated, planned, accessToken, encoded⟩, rfl⟩
    · have spared : Spared db ((refresh service context presented).evalFaulty
          plan ⟨db, db⟩) :=
        spared_refresh fun token session issued isRotated =>
          rotated ⟨token, session, issued, isRotated⟩
      rcases spared with ⟨failure, failed, _⟩
      cases failed.symm.trans accepted
  · rintro ⟨token, session, ⟨issued, rotated, planned, accessToken, encoded⟩,
      rfl⟩
    have ended := congrArg Prod.fst (evalFaulty_refresh csrfIssued rotated)
    simp only [rotationAnswer, planned, encoded] at ended
    exact ⟨_, rfl, ended⟩

/-- The sessions that a refresh issues tokens for belong to active users. -/
def RefreshesActive (service : AuthService) (db : AuthDb) :
    AccountEvent → Prop
  | .call (.refresh context presented) plan => ∀ token session,
      Mints service context presented plan db token session →
        HasActive db session.userId
  | _ => True

private theorem issuesToActive_iff (service : AuthService) (db : AuthDb)
    (event : AccountEvent) :
    IssuesToActive service db event ↔ RefreshesActive service db event := by
  cases event with
  | setStatus userId status => exact Iff.rfl
  | call call plan =>
      cases call with
      | logout context presented => exact Iff.rfl
      | login context request =>
          refine iff_of_true ?_ trivial
          intro issued accepted
          have called := Program.callFaulty_ok (Prod.ext accepted rfl)
          exact call_login_ok called
      | refresh context presented =>
          constructor
          · intro active token session mints
            rcases refresh_issues_iff.mpr ⟨token, session, mints, rfl⟩ with
              ⟨issued, sameUser, accepted⟩
            have isActive := active issued accepted
            rw [sameUser] at isActive
            exact isActive
          · intro active issued accepted
            rcases refresh_issues_iff.mp ⟨issued, rfl, accepted⟩ with
              ⟨token, session, mints, sameUser⟩
            have isActive := active token session mints
            rw [sameUser] at isActive
            exact isActive

/-- In every run, tokens are returned for active users only if and only if no
refresh rotates a token of a session whose user is not active. -/
theorem run_issuesToActive_iff (service : AuthService) (start : AuthDb)
    (events : List AccountEvent) :
    (∀ taken ∈ accountSteps service start events,
        IssuesToActive service taken.1 taken.2) ↔
      ∀ taken ∈ accountSteps service start events,
        RefreshesActive service taken.1 taken.2 :=
  forall₂_congr fun taken _ => issuesToActive_iff service taken.1 taken.2

namespace Sample

/-- A user logs in, is disabled, and refreshes. -/
def disabling : List AccountEvent :=
  [.call (.login (context 10 1) ⟨"acme", "OPS@acme.test", "secret"⟩) [],
    .setStatus ⟨2⟩ .disabled,
    .call (.refresh (context 11 2) firstCookie) []]

def disabled : AuthDb := setStatus ⟨2⟩ .disabled loggedIn

end Sample

/-- A disabled user gets a new refresh token and a new access token. -/
theorem disabled_issues :
    ((refresh Sample.exactService (Sample.context 11 2)
        Sample.firstCookie).call Sample.disabled).1.toOption.map
          (fun issued => issued.identity.userId) = some ⟨2⟩ ∧
      ¬∀ taken ∈ accountSteps Sample.exactService Sample.start
          Sample.disabling,
        IssuesToActive Sample.exactService taken.1 taken.2 := by
  have issues : ((refresh Sample.exactService (Sample.context 11 2)
      Sample.firstCookie).call Sample.disabled).1.toOption.map
        (fun issued => issued.identity.userId) = some ⟨2⟩ := by
    decide
  refine ⟨issues, ?_⟩
  intro allActive
  have taken : (Sample.disabled, AccountEvent.call
      (.refresh (Sample.context 11 2) Sample.firstCookie) []) ∈
        accountSteps Sample.exactService Sample.start Sample.disabling :=
    List.mem_cons_of_mem _ (List.mem_cons_of_mem _ List.mem_cons_self)
  rw [Option.map_eq_some_iff] at issues
  rcases issues with ⟨issued, isIssued, isUser⟩
  have accepted : ((refresh Sample.exactService (Sample.context 11 2)
      Sample.firstCookie).call Sample.disabled).1 = .ok issued := by
    cases answer : ((refresh Sample.exactService (Sample.context 11 2)
        Sample.firstCookie).call Sample.disabled).1 with
    | error failure =>
        rw [answer] at isIssued
        cases isIssued
    | ok given =>
        rw [answer] at isIssued
        cases isIssued
        rfl
  rcases allActive _ taken issued accepted with ⟨user, isUser', isActive⟩
  rw [isUser] at isUser'
  have inactive : (Sample.disabled.users.lookup ⟨2⟩).map UserRow.status =
      some .disabled := by
    decide
  rw [isUser', Option.map_some, isActive] at inactive
  cases inactive

end NetworkManager.Backend
