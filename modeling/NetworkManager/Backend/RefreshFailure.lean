import NetworkManager.Backend.RefreshRotation
import NetworkManager.Foundation.Base64

/-!
# Refreshes that fail

A refresh commits the rotation before it looks up the permissions and encodes
the access token.  A failure up to the commit loses the whole call; a failure
after it leaves a token consumed that its holder still has, and not the one
that replaced it.
-/

namespace NetworkManager.Backend

open NetworkManager.Foundation
open NetworkManager.Security.Token
open NetworkManager.Transaction

/-- The token that replaces `token`. -/
def nextToken (context : CallContext) (issued : IssuedOpaqueToken)
    (token : RefreshTokenRow) (session : SessionRow) : RefreshTokenRow where
  id := context.tokenId
  sessionId := token.sessionId
  familyId := token.familyId
  generation := wrappingAdd token.generation 1
  tokenPrefix := issued.visiblePrefix
  tokenHash := issued.hash
  expiresAt := session.expiresAt
  consumedAt := none
  revokedAt := none
  replacedById := none
  createdAt := context.dbNow

/-- The state that the rotation commits. -/
def rotatedDb (context : CallContext) (issued : IssuedOpaqueToken)
    (token : RefreshTokenRow) (session : SessionRow) (db : AuthDb) : AuthDb :=
  applyWrite (.sessionToken token.sessionId issued.hash issued.visiblePrefix
      context.now)
    (applyWrite (.consumed token.id context.now context.tokenId)
      (applyWrite (.refreshToken (nextToken context issued token session)) db))

/-- The presented token is live, and the database accepts the next one. -/
structure Rotates (service : AuthService) (context : CallContext)
    (presented : Bytes) (db : AuthDb) (token : RefreshTokenRow)
    (session : SessionRow) (issued : IssuedOpaqueToken) : Prop where
  issues : issueOpaqueToken service.library refreshPrefix
    context.refreshRandom = .ok issued
  found : execSelectRefreshToken
    (hashOpaqueToken service.library presented) db = some (token, session)
  unused : (token.consumedAt.isSome || token.revokedAt.isSome ||
    session.revokedAt.isSome) = false
  timely : ¬(token.expiresAt ≤ context.now ∨ session.expiresAt ≤ context.now)
  inserted : execInsertRefreshToken (nextToken context issued token session)
    db = .ok ((), [.refreshToken (nextToken context issued token session)])
  consumed : execConsumeRefreshToken token.id context.now context.tokenId
    (applyWrite (.refreshToken (nextToken context issued token session)) db) =
      .ok ((), [.consumed token.id context.now context.tokenId])

/-- Who the session is, with the permissions of its user. -/
def sessionIdentity (db : AuthDb) (token : RefreshTokenRow)
    (session : SessionRow) : SessionIdentity where
  sessionId := token.sessionId
  userId := session.userId
  organizationId := session.organizationId
  permissions :=
    execSelectPermissions session.organizationId session.userId db

section Refreshing

variable {service : AuthService} {context : CallContext} {presented : Bytes}
  {plan : List (Option SqlError)} {db : AuthDb} {token : RefreshTokenRow}
  {session : SessionRow} {issued : IssuedOpaqueToken}

/-- What a refresh does once it has rotated. -/
def answerRefresh (service : AuthService) (context : CallContext)
    (token : RefreshTokenRow) (session : SessionRow)
    (issued csrf : IssuedOpaqueToken) : Store service IssuedSession := do
  let permissions ← query service
    (.selectPermissions session.organizationId session.userId)
  let identity : SessionIdentity :=
    { sessionId := token.sessionId
      userId := session.userId
      organizationId := session.organizationId
      permissions }
  let accessToken ←
    available service (issueAccessToken service context identity)
  return ⟨identity, accessToken, issued, csrf⟩

/-- How a refresh that has found a live token goes on. -/
def rotateToken (service : AuthService) (context : CallContext)
    (token : RefreshTokenRow) (session : SessionRow)
    (issued csrf : IssuedOpaqueToken) : Store service IssuedSession := do
  query service (.insertRefreshToken (nextToken context issued token session))
  query service (.consumeRefreshToken token.id context.now context.tokenId)
  query service (.updateSessionToken token.sessionId issued.hash
    issued.visiblePrefix context.now)
  commit service
  answerRefresh service context token session issued csrf

/-- The answer to a token that cannot be used. -/
def refuseToken (service : AuthService) (context : CallContext)
    (token : RefreshTokenRow) (failure : AuthError) :
    Store service IssuedSession := do
  revokeFamily service token.familyId token.sessionId context.now
  commit service
  throw failure

/-- How a refresh goes on with what it has found. -/
def refreshFound (service : AuthService) (context : CallContext)
    (issued csrf : IssuedOpaqueToken) :
    Option (RefreshTokenRow × SessionRow) → Store service IssuedSession
  | none => throw .invalidSession
  | some (token, session) =>
      if token.consumedAt.isSome || token.revokedAt.isSome ||
          session.revokedAt.isSome then
        refuseToken service context token .refreshReuseDetected
      else if token.expiresAt ≤ context.now ∨
          session.expiresAt ≤ context.now then
        refuseToken service context token .invalidSession
      else
        rotateToken service context token session issued csrf

theorem refresh_eq {csrf : IssuedOpaqueToken}
    (refreshIssued : issueOpaqueToken service.library refreshPrefix
      context.refreshRandom = .ok issued)
    (csrfIssued : issueOpaqueToken service.library csrfPrefix
      context.csrfRandom = .ok csrf) :
    refresh service context presented =
      (query service (.selectRefreshToken
        (hashOpaqueToken service.library presented)) >>=
          refreshFound service context issued csrf) := by
  unfold refresh
  simp only [available, refreshIssued, csrfIssued, Except.mapError,
    Program.ofExcept, Program.done_ok_bind]
  congr 1
  funext row
  cases row with
  | none => rfl
  | some pair => rfl

/-- The call has failed, and if it says that the service is unavailable the
committed state is `db`. -/
def Spared (db : AuthDb) (result : Except AuthError IssuedSession ×
    Connection (authSql service.lower)) : Prop :=
  ∃ failure, result.1 = .error failure ∧
    (failure = .unavailable → result.2.committed = db)

private theorem spared_unavailable {result : Except AuthError IssuedSession ×
    Connection (authSql service.lower)} {working : AuthDb}
    (failed : result = (.error .unavailable,
      Connection.rollback ⟨db, working⟩)) : Spared db result := by
  rw [failed]
  exact ⟨.unavailable, rfl, fun _ => rfl⟩

private theorem evalFaulty_query_bind {α : Type} {statement : Statement}
    {next : Reply statement → Store service α} (plan : List (Option SqlError))
    (working : AuthDb) :
    ((query service statement >>= next).evalFaulty plan ⟨db, working⟩ =
        (.error .unavailable, Connection.rollback ⟨db, working⟩) ∧
      (plan.head?.join = none → ∃ fault,
        (authSql service.lower).exec statement working = .error fault)) ∨
    (plan.head?.join = none ∧ ∃ reply writes,
      (authSql service.lower).exec statement working = .ok (reply, writes) ∧
      (query service statement >>= next).evalFaulty plan ⟨db, working⟩ =
        (next reply).evalFaulty plan.tail
          ⟨db, (authSql service.lower).applyAll writes working⟩) := by
  rcases Program.evalFaulty_statement_bind statement
      (fun _ => AuthError.unavailable) next plan
      (⟨db, working⟩ : Connection (authSql service.lower)) with
    ⟨⟨_, failed⟩, refused⟩ | answered
  · exact Or.inl ⟨failed, refused⟩
  · exact Or.inr answered

private theorem evalFaulty_query_ok {α : Type} {statement : Statement}
    {next : Reply statement → Store service α} {working : AuthDb}
    {reply : Reply statement} {writes : List Write}
    (planned : plan.head?.join = none)
    (answered : (authSql service.lower).exec statement working =
      .ok (reply, writes)) :
    (query service statement >>= next).evalFaulty plan ⟨db, working⟩ =
      (next reply).evalFaulty plan.tail
        ⟨db, (authSql service.lower).applyAll writes working⟩ := by
  rcases evalFaulty_query_bind plan working with
    ⟨_, refused⟩ | ⟨_, _, _, also, reached⟩
  · rcases refused planned with ⟨_, impossible⟩
    rw [answered] at impossible
    cases impossible
  · rw [answered] at also
    cases also
    exact reached

private theorem evalFaulty_commit_bind
    {α : Type} {next : Unit → Store service α}
    (plan : List (Option SqlError)) (working : AuthDb) :
    ((commit service >>= next).evalFaulty plan ⟨db, working⟩ =
        (.error .unavailable, Connection.rollback ⟨db, working⟩) ∧
      plan.head?.join ≠ none) ∨
    (plan.head?.join = none ∧
      (commit service >>= next).evalFaulty plan ⟨db, working⟩ =
        (next ()).evalFaulty plan.tail (.fresh working)) := by
  rcases Program.evalFaulty_commitNow_bind
      (fun _ => AuthError.unavailable) next plan
      (⟨db, working⟩ : Connection (authSql service.lower)) with
    ⟨⟨_, failed⟩, planned⟩ | reached
  · exact Or.inl ⟨failed, planned⟩
  · exact Or.inr reached

/-- The answer of a refresh that has rotated. -/
def rotationAnswer (service : AuthService) (context : CallContext)
    (db : AuthDb) (token : RefreshTokenRow) (session : SessionRow)
    (issued csrf : IssuedOpaqueToken) (lookupFault : Option SqlError) :
    Except AuthError IssuedSession :=
  match lookupFault with
  | some _ => .error .unavailable
  | none =>
      match issueAccessToken service context (sessionIdentity db token
        session) with
      | .error _ => .error .unavailable
      | .ok accessToken =>
          .ok ⟨sessionIdentity db token session, accessToken, issued, csrf⟩

private theorem evalFaulty_answerRefresh (csrf : IssuedOpaqueToken) :
    (answerRefresh service context token session issued csrf).evalFaulty plan
        (.fresh db) =
      (rotationAnswer service context db token session issued csrf
        plan.head?.join, .fresh db) := by
  have finished : (available service (issueAccessToken service context
      (sessionIdentity db token session)) >>= fun accessToken =>
        pure (IssuedSession.mk (sessionIdentity db token session) accessToken
          issued csrf)).evalFaulty plan.tail (.fresh db) =
      (rotationAnswer service context db token session issued csrf none,
        .fresh db) := by
    rw [rotationAnswer]
    cases issueAccessToken service context
        (sessionIdentity db token session) with
    | error failure => rfl
    | ok accessToken => rfl
  have answered : (authSql service.lower).exec (.selectPermissions
      session.organizationId session.userId) db =
        .ok (execSelectPermissions session.organizationId session.userId db,
          []) := rfl
  cases planned : plan.head?.join with
  | none => exact (evalFaulty_query_ok planned answered).trans finished
  | some fault =>
      unfold answerRefresh
      rcases evalFaulty_query_bind plan db with ⟨failed, _⟩ | ⟨never, _⟩
      · exact failed
      · rw [planned] at never
        cases never

private theorem spared_refuseToken {failure : AuthError}
    (different : failure ≠ .unavailable) :
    Spared db ((refuseToken service context token failure).evalFaulty plan
      ⟨db, db⟩) := by
  unfold refuseToken revokeFamily
  rw [bind_assoc]
  rcases evalFaulty_query_bind plan db with
    ⟨failed, _⟩ | ⟨_, _, _, answered, reached⟩
  · exact spared_unavailable failed
  cases answered
  rw [reached]
  rcases evalFaulty_query_bind plan.tail _ with
    ⟨failed, _⟩ | ⟨_, _, _, answered, reached⟩
  · exact spared_unavailable failed
  cases answered
  rw [reached]
  rcases evalFaulty_commit_bind plan.tail.tail _ with
    ⟨failed, _⟩ | ⟨_, reached⟩
  · exact spared_unavailable failed
  rw [reached]
  exact ⟨failure, rfl, fun same => absurd same different⟩

/-- A rotation without a fault up to its commit. -/
theorem evalFaulty_rotateToken {csrf : IssuedOpaqueToken}
    (rotates : Rotates service context presented db token session issued)
    (faultless : Program.Faultless 4 plan) :
    (rotateToken service context token session issued csrf).evalFaulty plan
        (.fresh db) =
      (rotationAnswer service context db token session issued csrf
          (plan.drop 4).head?.join,
        .fresh (rotatedDb context issued token session db)) := by
  rcases faultless with ⟨first, second, third, fourth, _⟩
  unfold rotateToken
  have inserts : (authSql service.lower).exec (.insertRefreshToken
      (nextToken context issued token session)) db =
        .ok ((), [.refreshToken (nextToken context issued token session)]) :=
    rotates.inserted
  have consumes : (authSql service.lower).exec (.consumeRefreshToken token.id
      context.now context.tokenId)
      (applyWrite (.refreshToken (nextToken context issued token session))
        db) =
        .ok ((), [.consumed token.id context.now context.tokenId]) :=
    rotates.consumed
  rw [Connection.fresh, evalFaulty_query_ok first inserts]
  refine (evalFaulty_query_ok second consumes).trans ?_
  rw [evalFaulty_query_ok third rfl]
  rcases evalFaulty_commit_bind plan.tail.tail.tail _ with
    ⟨_, failed⟩ | ⟨_, reached⟩
  · exact absurd fourth failed
  have dropped : plan.drop 4 = plan.tail.tail.tail.tail := by
    simp only [← List.drop_one, List.drop_drop]
  rw [reached, dropped]
  exact evalFaulty_answerRefresh csrf

/-- A rotation that does not get to its commit. -/
theorem spared_rotateToken {csrf : IssuedOpaqueToken}
    (stopped : ∀ (_ : execInsertRefreshToken
        (nextToken context issued token session) db =
          .ok ((), [.refreshToken (nextToken context issued token session)]))
      (_ : execConsumeRefreshToken token.id context.now context.tokenId
        (applyWrite (.refreshToken (nextToken context issued token session))
          db) = .ok ((), [.consumed token.id context.now context.tokenId])),
      ¬Program.Faultless 4 plan) :
    Spared db ((rotateToken service context token session issued
      csrf).evalFaulty plan ⟨db, db⟩) := by
  unfold rotateToken
  rcases evalFaulty_query_bind plan db with
    ⟨failed, _⟩ | ⟨first, _, _, inserts, reached⟩
  · exact spared_unavailable failed
  have inserted := (execInsertRefreshToken_eq_ok inserts).1
  subst inserted
  rw [reached]
  rcases evalFaulty_query_bind plan.tail _ with
    ⟨failed, _⟩ | ⟨second, _, _, consumes, reached⟩
  · exact spared_unavailable failed
  have consumed := execConsumeRefreshToken_eq_ok consumes
  subst consumed
  rw [reached]
  rcases evalFaulty_query_bind plan.tail.tail _ with
    ⟨failed, _⟩ | ⟨third, _, _, answered, reached⟩
  · exact spared_unavailable failed
  rw [reached]
  rcases evalFaulty_commit_bind plan.tail.tail.tail _ with
    ⟨failed, _⟩ | ⟨fourth, _⟩
  · exact spared_unavailable failed
  · exact absurd ⟨first, second, third, fourth, trivial⟩
      (stopped inserts consumes)

/-- The refresh rotates, and nothing fails up to its commit. -/
def Rotated (service : AuthService) (context : CallContext)
    (presented : Bytes) (plan : List (Option SqlError)) (db : AuthDb)
    (token : RefreshTokenRow) (session : SessionRow)
    (issued : IssuedOpaqueToken) : Prop :=
  Rotates service context presented db token session issued ∧
    Program.Faultless 5 plan

/-- A refresh that does not rotate. -/
theorem spared_refresh
    (notRotated : ∀ token session issued,
      ¬Rotated service context presented plan db token session issued) :
    Spared db ((refresh service context presented).evalFaulty plan
      ⟨db, db⟩) := by
  rcases issueOpaqueToken_ok service.library refreshPrefix (by simp)
    context.refreshRandom with ⟨issued, refreshIssued⟩
  rcases issueOpaqueToken_ok service.library csrfPrefix (by simp)
    context.csrfRandom with ⟨csrf, csrfIssued⟩
  rw [refresh_eq refreshIssued csrfIssued]
  rcases evalFaulty_query_bind plan db with
    ⟨failed, _⟩ | ⟨first, row, _, answered, reached⟩
  · exact spared_unavailable failed
  have isRow : execSelectRefreshToken
      (hashOpaqueToken service.library presented) db = row :=
    congrArg Prod.fst (Except.ok.inj answered)
  cases answered
  rw [reached]
  cases found : execSelectRefreshToken
      (hashOpaqueToken service.library presented) db with
  | none => exact ⟨.invalidSession, rfl, nofun⟩
  | some pair =>
      rcases pair with ⟨token, session⟩
      rw [refreshFound]
      by_cases used : (token.consumedAt.isSome || token.revokedAt.isSome ||
          session.revokedAt.isSome) = true
      · rw [if_pos used]
        exact spared_refuseToken nofun
      rw [if_neg used]
      by_cases late : token.expiresAt ≤ context.now ∨
          session.expiresAt ≤ context.now
      · rw [if_pos late]
        exact spared_refuseToken nofun
      rw [if_neg late]
      apply spared_rotateToken
      intro inserted consumed faultless
      exact notRotated token session issued
        ⟨⟨refreshIssued, found, Bool.eq_false_iff.mpr used, late, inserted,
          consumed⟩, first, faultless⟩

/-- A refresh that rotates. -/
theorem evalFaulty_refresh {csrf : IssuedOpaqueToken}
    (csrfIssued : issueOpaqueToken service.library csrfPrefix
      context.csrfRandom = .ok csrf)
    (rotated : Rotated service context presented plan db token session
      issued) :
    (refresh service context presented).evalFaulty plan ⟨db, db⟩ =
      (rotationAnswer service context db token session issued csrf
          (plan.drop 5).head?.join,
        .fresh (rotatedDb context issued token session db)) := by
  rcases rotated with ⟨rotates, first, faultless⟩
  have answered : (authSql service.lower).exec (.selectRefreshToken
      (hashOpaqueToken service.library presented)) db =
        .ok (some (token, session), []) :=
    congrArg (fun row => Except.ok (row, [])) rotates.found
  have notUsed : ¬(token.consumedAt.isSome || token.revokedAt.isSome ||
      session.revokedAt.isSome) = true := Bool.eq_false_iff.mp rotates.unused
  have dropped : plan.drop 5 = plan.tail.drop 4 := by
    rw [← List.drop_one, List.drop_drop]
  rw [refresh_eq rotates.issues csrfIssued, evalFaulty_query_ok first answered,
    refreshFound, if_neg notUsed, if_neg rotates.timely, dropped]
  exact evalFaulty_rotateToken rotates faultless

end Refreshing

/-! ## Failed refreshes -/

/-- If the refresh answers that the service is unavailable, the sessions and
their tokens are as they were, and a retry gets the answer it would have got. -/
structure Unharmed (service : AuthService) (context : CallContext)
    (presented : Bytes) (plan : List (Option SqlError)) (db : AuthDb) :
    Prop where
  sessions : ((refresh service context presented).callFaulty plan db).1 =
      .error .unavailable →
    ((refresh service context presented).callFaulty plan db).2.sessions =
      db.sessions
  refreshTokens : ((refresh service context presented).callFaulty plan db).1 =
      .error .unavailable →
    ((refresh service context presented).callFaulty plan db).2.refreshTokens =
      db.refreshTokens
  retry : ((refresh service context presented).callFaulty plan db).1 =
      .error .unavailable →
    ∀ again, ((refresh service again presented).call
        ((refresh service context presented).callFaulty plan db).2).1 =
      ((refresh service again presented).call db).1

/-- The rotation is committed, and then the lookup of the permissions or the
encoding of the access token fails. -/
def RotationLost (service : AuthService) (context : CallContext)
    (presented : Bytes) (plan : List (Option SqlError)) (db : AuthDb) : Prop :=
  ∃ token session issued,
    Rotated service context presented plan db token session issued ∧
      ((plan.drop 5).head?.join ≠ none ∨ ∃ failure,
        issueAccessToken service context (sessionIdentity db token session) =
          .error failure)

private theorem rotationAnswer_eq_unavailable_iff {service : AuthService}
    {context : CallContext} {db : AuthDb} {token : RefreshTokenRow}
    {session : SessionRow} {issued csrf : IssuedOpaqueToken}
    {lookupFault : Option SqlError} :
    rotationAnswer service context db token session issued csrf lookupFault =
        .error .unavailable ↔
      lookupFault ≠ none ∨ ∃ failure,
        issueAccessToken service context (sessionIdentity db token session) =
          .error failure := by
  cases lookupFault with
  | some fault => simp [rotationAnswer]
  | none =>
      cases encoded : issueAccessToken service context
          (sessionIdentity db token session) with
      | error failure => simp [rotationAnswer, encoded]
      | ok accessToken => simp [rotationAnswer, encoded]

/-- A rotation adds a token. -/
theorem refreshTokens_rotatedDb_ne {context : CallContext} {db : AuthDb}
    {token : RefreshTokenRow} {session : SessionRow}
    {issued : IssuedOpaqueToken}
    (inserted : execInsertRefreshToken (nextToken context issued token session)
      db = .ok ((), [.refreshToken (nextToken context issued token session)])) :
    (rotatedDb context issued token session db).refreshTokens ≠
      db.refreshTokens := by
  intro same
  have fresh := (execInsertRefreshToken_eq_ok inserted).2.freshId
  have present : ((rotatedDb context issued token session
      db).refreshTokens.lookup context.tokenId).isSome := by
    simp only [rotatedDb, applyWrite, Table.lookup_update]
    rw [Option.isSome_map]
    exact Option.isSome_of_eq_some (Table.lookup_put_self
      (nextToken context issued token session) db.refreshTokens)
  rw [same] at present
  rw [Option.isSome_iff_exists] at present
  rcases present with ⟨row, found⟩
  exact Option.some_ne_none row (found.symm.trans fresh)

/-- A failed refresh leaves the session usable unless it fails after its
commit.  A commit that fails is rolled back here; one that takes place while its
acknowledgement is lost is not covered. -/
theorem unharmed_iff (service : AuthService) (context : CallContext)
    (presented : Bytes) (plan : List (Option SqlError)) (db : AuthDb) :
    Unharmed service context presented plan db ↔
      ¬RotationLost service context presented plan db := by
  constructor
  · rintro unharmed ⟨token, session, issued, rotated, failed⟩
    rcases issueOpaqueToken_ok service.library csrfPrefix (by simp)
      context.csrfRandom with ⟨csrf, csrfIssued⟩
    have ended := evalFaulty_refresh csrfIssued rotated
    have isUnavailable : ((refresh service context presented).callFaulty plan
        db).1 = .error .unavailable :=
      (congrArg Prod.fst ended).trans
        (rotationAnswer_eq_unavailable_iff.mpr failed)
    have reached : ((refresh service context presented).callFaulty plan db).2 =
        rotatedDb context issued token session db :=
      congrArg (fun result => result.2.committed) ended
    have same := unharmed.refreshTokens isUnavailable
    rw [reached] at same
    exact refreshTokens_rotatedDb_ne rotated.1.inserted same
  · intro notLost
    suffices kept : ((refresh service context presented).callFaulty plan
        db).1 = .error .unavailable →
        ((refresh service context presented).callFaulty plan db).2 = db by
      constructor
      · exact fun failed => congrArg AuthDb.sessions (kept failed)
      · exact fun failed => congrArg AuthDb.refreshTokens (kept failed)
      · intro failed again
        rw [kept failed]
    intro isUnavailable
    by_cases rotated : ∃ token session issued,
        Rotated service context presented plan db token session issued
    · rcases rotated with ⟨token, session, issued, rotated⟩
      rcases issueOpaqueToken_ok service.library csrfPrefix (by simp)
        context.csrfRandom with ⟨csrf, csrfIssued⟩
      have ended := evalFaulty_refresh csrfIssued rotated
      have answer := (congrArg Prod.fst ended).symm.trans isUnavailable
      exact absurd ⟨token, session, issued, rotated,
        rotationAnswer_eq_unavailable_iff.mp answer⟩ notLost
    · have spared : Spared db ((refresh service context presented).evalFaulty
          plan ⟨db, db⟩) :=
        spared_refresh fun token session issued isRotated =>
          rotated ⟨token, session, issued, isRotated⟩
      rcases spared with ⟨failure, failed, kept⟩
      have sameFailure : failure = .unavailable :=
        Except.error.inj (failed.symm.trans isUnavailable)
      exact kept sameFailure

namespace Sample

/-- The tokens of the run with their SHA-256 digests. -/
def digests : List (String × FixedBytes 32) :=
  [("snm_rt_AQEBAQEBAQEBAQEBAQEBAQEBAQEBAQEBAQEBAQEBAQE",
      ⟨[40, 180, 42, 255, 236, 213, 231, 82, 136, 219, 99, 14, 133, 60,
      86, 80, 235, 94, 195, 10, 185, 114, 38, 188, 39, 245, 237, 138,
      180, 222, 71, 222], by decide⟩),
    ("csrf_AQEBAQEBAQEBAQEBAQEBAQEBAQEBAQEBAQEBAQEBAQE",
      ⟨[130, 130, 229, 145, 135, 149, 29, 68, 223, 177, 204, 192, 219,
      232, 59, 137, 193, 1, 10, 145, 162, 150, 83, 146, 135, 149, 144,
      57, 196, 156, 162, 18], by decide⟩),
    ("snm_rt_AgICAgICAgICAgICAgICAgICAgICAgICAgICAgICAgI",
      ⟨[82, 217, 11, 114, 159, 113, 238, 238, 132, 184, 252, 221, 228,
      165, 190, 40, 219, 109, 160, 27, 188, 68, 165, 246, 144, 252, 127,
      148, 229, 211, 209, 232], by decide⟩),
    ("csrf_AgICAgICAgICAgICAgICAgICAgICAgICAgICAgICAgI",
      ⟨[252, 120, 106, 79, 237, 175, 137, 83, 181, 190, 131, 67, 134, 20,
      127, 36, 175, 163, 42, 139, 15, 221, 243, 51, 51, 68, 41, 41, 248,
      149, 100, 212], by decide⟩),
    ("snm_rt_AwMDAwMDAwMDAwMDAwMDAwMDAwMDAwMDAwMDAwMDAwM",
      ⟨[34, 134, 85, 137, 145, 193, 2, 197, 136, 205, 22, 179, 231, 6,
      104, 112, 133, 0, 166, 94, 230, 86, 178, 222, 210, 1, 105, 55, 66,
      31, 2, 159], by decide⟩),
    ("csrf_AwMDAwMDAwMDAwMDAwMDAwMDAwMDAwMDAwMDAwMDAwM",
      ⟨[227, 124, 86, 243, 246, 11, 134, 237, 77, 206, 55, 45, 184, 7,
      191, 94, 54, 98, 31, 28, 107, 223, 106, 13, 84, 246, 141, 191, 74,
      211, 198, 109], by decide⟩)]

/-- The claims of an access token of the run. -/
def claimsOf (jti : Uuid) : AccessClaims where
  iss := "snm"
  aud := "snm-api"
  sub := ⟨2⟩
  org := ⟨1⟩
  sid := ⟨10⟩
  jti
  scopes := []
  iat := 1
  nbf := 1
  exp := 601

/-- The HMAC-SHA-256 of the claims of the run. -/
def macs : List (AccessClaims × FixedBytes 32) :=
  [(claimsOf ⟨10⟩,
      ⟨[131, 87, 11, 6, 220, 86, 113, 116, 160, 45, 181, 180, 70, 241, 79,
      244, 225, 251, 205, 147, 94, 181, 125, 161, 39, 95, 201, 223, 47,
      192, 138, 23], by decide⟩),
    (claimsOf ⟨11⟩,
      ⟨[51, 104, 13, 153, 223, 64, 200, 86, 193, 236, 149, 129, 226, 166,
      183, 105, 34, 58, 54, 121, 78, 101, 147, 44, 163, 26, 213, 188,
      96, 31, 92, 57], by decide⟩)]

def headerJson : Bytes := utf8Bytes "\x7b\"alg\":\"HS256\",\"typ\":\"JWT\"\x7d"

/-- The JSON text of claims without scopes. -/
def claimsJson (claims : AccessClaims) : Bytes :=
  utf8Bytes ("\x7b\"iss\":\"" ++ claims.iss ++ "\",\"aud\":\"" ++ claims.aud ++
    "\",\"sub\":\"" ++ claims.sub.text ++ "\",\"org\":\"" ++ claims.org.text ++
    "\",\"sid\":\"" ++ claims.sid.text ++ "\",\"jti\":\"" ++ claims.jti.text ++
    "\",\"scopes\":[],\"iat\":" ++ toString claims.iat ++ ",\"nbf\":" ++
    toString claims.nbf ++ ",\"exp\":" ++ toString claims.exp ++ "\x7d")

def signedBytes (claims : AccessClaims) : Bytes :=
  utf8Bytes (Base64.encode headerJson ++ "." ++
    Base64.encode (claimsJson claims))

/-- The codecs and the hash functions where the run uses them. -/
def codec : TokenLibrary where
  base64Encode := Base64.encode
  base64Decode := Base64.decode
  hmacSha256 _ message :=
    ((macs.find? fun entry => signedBytes entry.1 = message).map
      Prod.snd).getD (.replicate 32 0)
  sha256 bytes :=
    ((digests.find? fun entry => utf8Bytes entry.1 = bytes).map
      Prod.snd).getD (.replicate 32 0)
  headerToVec _ := some headerJson
  headerFromSlice _ := some ⟨"HS256", "JWT"⟩
  claimsToVec claims := some (claimsJson claims)
  claimsFromSlice bytes :=
    (macs.find? fun entry => claimsJson entry.1 = bytes).map Prod.fst

def exactService : AuthService := { service with library := codec }

/-- The refresh token of the first login. -/
def firstCookie : Bytes :=
  utf8Bytes "snm_rt_AQEBAQEBAQEBAQEBAQEBAQEBAQEBAQEBAQEBAQEBAQE"

def loggedIn : AuthDb :=
  ((login exactService (context 10 1)
    ⟨"acme", "OPS@acme.test", "secret"⟩).call start).2

/-- The sixth statement of the refresh, the lookup of the permissions, fails. -/
def lookupFails : List (Option SqlError) :=
  [none, none, none, none, none, some (.other "connection_failure")]

end Sample

/-- After a refresh whose lookup of the permissions fails, the retry is taken
for a reuse. -/
theorem refresh_harms :
    ((refresh Sample.exactService (Sample.context 11 2)
        Sample.firstCookie).callFaulty Sample.lookupFails
          Sample.loggedIn).1 = .error .unavailable ∧
      ((refresh Sample.exactService (Sample.context 12 3)
        Sample.firstCookie).call ((refresh Sample.exactService
          (Sample.context 11 2) Sample.firstCookie).callFaulty
            Sample.lookupFails Sample.loggedIn).2).1 =
        .error .refreshReuseDetected ∧
      ¬Unharmed Sample.exactService (Sample.context 11 2) Sample.firstCookie
        Sample.lookupFails Sample.loggedIn := by
  have failed : ((refresh Sample.exactService (Sample.context 11 2)
      Sample.firstCookie).callFaulty Sample.lookupFails
        Sample.loggedIn).1 = .error .unavailable := by
    decide
  have grows : ((refresh Sample.exactService (Sample.context 11 2)
      Sample.firstCookie).callFaulty Sample.lookupFails
        Sample.loggedIn).2.refreshTokens.rows.length = 2 ∧
      Sample.loggedIn.refreshTokens.rows.length = 1 := by
    decide
  refine ⟨failed, by decide, ?_⟩
  intro unharmed
  have same := unharmed.refreshTokens failed
  rw [same, grows.2] at grows
  exact absurd grows.1 (by decide)

end NetworkManager.Backend
