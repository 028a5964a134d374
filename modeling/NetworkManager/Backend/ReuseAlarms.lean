import NetworkManager.Backend.RefreshFailure
import NetworkManager.Transaction.Endings

/-!
# Alarms

A refresh that answers `RefreshReuseDetected` says that somebody else may have
the token.  Here any number of clients hold tokens, anybody presents any text,
answers get lost, and statements fail.  The alarm is raised for a client if and
only if a request with a token of its session has changed the database since the
client got its own.
-/

namespace NetworkManager.Backend

open NetworkManager.Foundation
open NetworkManager.Security.Token
open NetworkManager.Transaction

/-- The session of a login. -/
def loginSession (context : CallContext) (issued : IssuedOpaqueToken)
    (user : LoginUser) : SessionRow where
  id := context.sessionId
  organizationId := user.organizationId
  userId := user.userId
  refreshTokenHash := issued.hash
  refreshTokenPrefix := issued.visiblePrefix
  expiresAt := context.now + intervalSeconds (refreshTtlDays * (24 * 60 * 60))
  lastUsedAt := some context.now
  authTime := context.now
  revokedAt := none
  accessRevokedBefore := none
  createdAt := context.dbNow

/-- The first token of a session. -/
def loginToken (context : CallContext) (issued : IssuedOpaqueToken) :
    RefreshTokenRow where
  id := context.tokenId
  sessionId := context.sessionId
  familyId := context.familyId
  generation := 0
  tokenPrefix := issued.visiblePrefix
  tokenHash := issued.hash
  expiresAt := context.now + intervalSeconds (refreshTtlDays * (24 * 60 * 60))
  consumedAt := none
  revokedAt := none
  replacedById := none
  createdAt := context.dbNow

/-- The state that a login commits. -/
def startedDb (context : CallContext) (issued : IssuedOpaqueToken)
    (user : LoginUser) (db : AuthDb) : AuthDb :=
  applyWrite (.lastLogin user.userId context.now)
    (applyWrite (.refreshToken (loginToken context issued))
      (applyWrite (.session (loginSession context issued user)) db))

/-- The token and its session cannot be used any more. -/
def Used (token : RefreshTokenRow) (session : SessionRow) : Prop :=
  (token.consumedAt.isSome || token.revokedAt.isSome ||
    session.revokedAt.isSome) = true

/-- What is given for a session: its identity, the access token that is signed
for it, and the refresh token. -/
structure Granted (service : AuthService) (context : CallContext)
    (issued : IssuedOpaqueToken) (session : SessionRow)
    (given : IssuedSession) : Prop where
  refreshToken : given.refreshToken = issued
  sessionId : given.identity.sessionId = session.id
  userId : given.identity.userId = session.userId
  organizationId : given.identity.organizationId = session.organizationId
  accessToken : issueAccessToken service context given.identity =
    .ok given.accessToken

/-- An answer that gives anything gives it for this session. -/
def Gives (service : AuthService) (context : CallContext)
    (issued : IssuedOpaqueToken) (session : SessionRow)
    (answer : Except AuthError IssuedSession) : Prop :=
  ∀ given, answer = .ok given → Granted service context issued session given

inductive LoginEnds (service : AuthService) (context : CallContext)
    (db : AuthDb) : Except AuthError IssuedSession → AuthDb → Prop
  | refused (failure : AuthError) :
      LoginEnds service context db (.error failure) db
  | started {issued : IssuedOpaqueToken} {user : LoginUser}
      {answer : Except AuthError IssuedSession} :
      issueOpaqueToken service.library refreshPrefix context.refreshRandom =
        .ok issued →
      db.sessions.lookup context.sessionId = none →
      Insertable (applyWrite (.session (loginSession context issued user)) db)
        (loginToken context issued) →
      Gives service context issued (loginSession context issued user) answer →
      LoginEnds service context db answer (startedDb context issued user db)

inductive RefreshEnds (service : AuthService) (context : CallContext)
    (presented : Bytes) (db : AuthDb) :
    Except AuthError IssuedSession → AuthDb → Prop
  | refused {failure : AuthError} : failure ≠ .refreshReuseDetected →
      RefreshEnds service context presented db (.error failure) db
  | revoked {failure : AuthError} {token : RefreshTokenRow}
      {session : SessionRow} :
      execSelectRefreshToken (hashOpaqueToken service.library presented) db =
        some (token, session) →
      (failure = .refreshReuseDetected → Used token session) →
      RefreshEnds service context presented db (.error failure)
        (revoked token.familyId token.sessionId context.now db)
  | rotated {issued : IssuedOpaqueToken} {token : RefreshTokenRow}
      {session : SessionRow} {answer : Except AuthError IssuedSession} :
      Rotates service context presented db token session issued →
      Gives service context issued session answer →
      answer ≠ .error .refreshReuseDetected →
      RefreshEnds service context presented db answer
        (rotatedDb context issued token session db)

inductive LogoutEnds (service : AuthService) (context : CallContext)
    (presented : Bytes) (db : AuthDb) : Except AuthError Unit → AuthDb → Prop
  | unchanged (answer : Except AuthError Unit) :
      LogoutEnds service context presented db answer db
  | revoked {token : RefreshTokenRow} (answer : Except AuthError Unit) :
      (db.refreshTokens.rows.find? fun token => token.tokenHash =
        hashOpaqueToken service.library presented) = some token →
      LogoutEnds service context presented db answer
        (revoked token.familyId token.sessionId context.now db)

section Endings

variable {service : AuthService} {context : CallContext} {presented : Bytes}
  {db : AuthDb}

/-- A call that has issued a token ends with the permissions and the access
token. -/
theorem endsIn_answer {allowed : Except AuthError IssuedSession → AuthDb → Prop}
    {committed working : AuthDb} {organizationId userId : Uuid}
    {identity : List String → SessionIdentity} {issued csrf : IssuedOpaqueToken}
    (failed : allowed (.error .unavailable) committed)
    (answered : ∀ permissions accessToken,
      issueAccessToken service context (identity permissions) =
        .ok accessToken →
      allowed (.ok ⟨identity permissions, accessToken, issued, csrf⟩)
        committed) :
    Program.EndsIn allowed
      (query service (.selectPermissions organizationId userId) >>=
        fun permissions =>
          available service
            (issueAccessToken service context (identity permissions)) >>=
          fun accessToken =>
            pure ⟨identity permissions, accessToken, issued, csrf⟩)
      committed working := by
  refine .statement_bind (fun _ => failed) fun permissions _ _ => ?_
  cases encoded : issueAccessToken service context (identity permissions) with
  | error failure => exact .done failed
  | ok accessToken => exact .done (answered permissions accessToken encoded)

theorem login_endsIn (request : LoginRequest) :
    (login service context request).EndsIn (LoginEnds service context db) db
      db := by
  unfold login
  refine .check_bind (fun _ => .refused _) fun _ => ?_
  refine .statement_bind (fun _ => .refused _) fun user _ answered => ?_
  cases answered
  cases execSelectLoginUser service.lower request.organizationSlug
      request.email db with
  | none => exact .done (.refused _)
  | some user =>
      refine .check_bind (fun _ => .refused _) fun _ => ?_
      obtain ⟨issued, isIssued⟩ := issueOpaqueToken_ok service.library
        refreshPrefix (by simp) context.refreshRandom
      refine .ofExcept_bind (fun failure _ => .refused _) fun refresh given => ?_
      rw [isIssued] at given
      cases given
      refine .ofExcept_bind (fun failure _ => .refused _) fun csrf _ => ?_
      refine .statement_bind (fun _ => .refused _) fun _ _ inserted => ?_
      obtain ⟨rfl, freshSession⟩ := execInsertSession_eq_ok inserted
      refine .statement_bind (fun _ => .refused _) fun _ _ inserted => ?_
      obtain ⟨rfl, insertable⟩ := execInsertRefreshToken_eq_ok inserted
      refine .statement_bind (fun _ => .refused _) fun _ _ answered => ?_
      cases answered
      refine .commitNow_bind (fun _ => .refused _) ?_
      exact endsIn_answer
        (.started isIssued freshSession insertable (by rintro _ ⟨⟩))
        fun permissions accessToken encoded =>
          .started isIssued freshSession insertable
            (by rintro _ ⟨⟩; exact ⟨rfl, rfl, rfl, rfl, encoded⟩)

/-- A family is revoked, and the call ends as it has decided to. -/
theorem endsIn_revokeFamily {α : Type}
    {allowed : Except AuthError α → AuthDb → Prop} {familyId sessionId : Uuid}
    {now : Timestamp} {outcome : Except AuthError α}
    (failed : allowed (.error .unavailable) db)
    (done : allowed outcome (revoked familyId sessionId now db)) :
    Program.EndsIn allowed
      (revokeFamily service familyId sessionId now >>= fun _ =>
        commit service >>= fun _ => Program.done outcome) db db := by
  unfold revokeFamily
  rw [bind_assoc]
  refine .statement_bind (fun _ => failed) fun _ _ answered => ?_
  cases answered
  refine .statement_bind (fun _ => failed) fun _ _ answered => ?_
  cases answered
  exact .commitNow_bind (fun _ => failed) (.done done)

theorem refresh_endsIn :
    (refresh service context presented).EndsIn
      (RefreshEnds service context presented db) db db := by
  have failed : RefreshEnds service context presented db
      (.error .unavailable) db := .refused (by decide)
  obtain ⟨issued, refreshIssued⟩ := issueOpaqueToken_ok service.library
    refreshPrefix (by simp) context.refreshRandom
  obtain ⟨csrf, csrfIssued⟩ := issueOpaqueToken_ok service.library csrfPrefix
    (by simp) context.csrfRandom
  rw [refresh_eq refreshIssued csrfIssued]
  refine .statement_bind (fun _ => failed) fun row _ answered => ?_
  cases answered
  cases found : execSelectRefreshToken
      (hashOpaqueToken service.library presented) db with
  | none => exact .done (.refused (by decide))
  | some pair =>
      obtain ⟨token, session⟩ := pair
      rw [refreshFound]
      by_cases used : (token.consumedAt.isSome || token.revokedAt.isSome ||
          session.revokedAt.isSome) = true
      · rw [if_pos used]
        exact endsIn_revokeFamily failed (.revoked found fun _ => used)
      rw [if_neg used]
      by_cases late : token.expiresAt ≤ context.now ∨
          session.expiresAt ≤ context.now
      · rw [if_pos late]
        exact endsIn_revokeFamily failed (.revoked found (by rintro ⟨⟩))
      rw [if_neg late, rotateToken]
      refine .statement_bind (fun _ => failed) fun _ _ inserted => ?_
      obtain ⟨rfl, insertable⟩ := execInsertRefreshToken_eq_ok inserted
      refine .statement_bind (fun _ => failed) fun _ _ consumed => ?_
      obtain rfl := execConsumeRefreshToken_eq_ok consumed
      refine .statement_bind (fun _ => failed) fun _ _ answered => ?_
      cases answered
      refine .commitNow_bind (fun _ => failed) ?_
      have rotates : Rotates service context presented db token session
          issued :=
        ⟨refreshIssued, found, Bool.eq_false_iff.mpr used, late, inserted,
          consumed⟩
      have sameId : token.sessionId = session.id :=
        (Table.key_of_lookup (execSelectRefreshToken_eq_some found).2.2).symm
      exact endsIn_answer (.rotated rotates (by rintro _ ⟨⟩) (by decide))
        fun permissions accessToken encoded =>
          .rotated rotates
            (by rintro _ ⟨⟩; exact ⟨rfl, sameId, rfl, rfl, encoded⟩)
            (by rintro ⟨⟩)

theorem logout_endsIn :
    (logout service context presented).EndsIn
      (LogoutEnds service context presented db) db db := by
  unfold logout
  refine .statement_bind (fun _ => .unchanged _) fun row _ answered => ?_
  cases answered
  cases found : db.refreshTokens.rows.find? fun token => token.tokenHash =
      hashOpaqueToken service.library presented with
  | none => exact .commit (fun _ => .unchanged _) (.done (.unchanged _))
  | some token =>
      exact endsIn_revokeFamily (.unchanged _) (.revoked _ found)

end Endings

/-! ## Rows of tokens -/

/-- The row of a token with its session, as a refresh finds it. -/
def rowOf (service : AuthService) (db : AuthDb) (token : String) :
    Option (RefreshTokenRow × SessionRow) :=
  execSelectRefreshToken (hashOpaqueToken service.library (utf8Bytes token)) db

/-- Both tokens have rows of one session. -/
def SameSession (service : AuthService) (db : AuthDb) (left right : String) :
    Prop :=
  ∃ leftRow rightRow, rowOf service db left = some leftRow ∧
    rowOf service db right = some rightRow ∧
      leftRow.1.sessionId = rightRow.1.sessionId

/-- The request that has presented a text of the same session has changed the
database. -/
def Overtakes (service : AuthService) (db reached : AuthDb)
    (presented : Option String) (token : String) : Prop :=
  reached ≠ db ∧ ∃ text, presented = some text ∧
    SameSession service db text token

/-- The token is found, and used only if it was or has been overtaken. -/
def RowKept (service : AuthService) (db reached : AuthDb)
    (presented : Option String) (token : String) (row : RefreshTokenRow)
    (session : SessionRow) : Prop :=
  ∃ nextRow nextSession,
    rowOf service reached token = some (nextRow, nextSession) ∧
      (Used nextRow nextSession ↔ Used row session ∨
        Overtakes service db reached presented token)

section Rows

variable {service : AuthService} {context : CallContext} {db : AuthDb}
  {token presented : String} {row : RefreshTokenRow} {session : SessionRow}

private theorem rowOf_eq
    (chains : Chains db) (member : row ∈ db.refreshTokens.rows)
    (sameHash : row.tokenHash =
      hashOpaqueToken service.library (utf8Bytes token))
    (present : db.sessions.lookup row.sessionId = some session) :
    rowOf service db token = some (row, session) := by
  obtain ⟨other, found⟩ := chains.find_eq member sameHash
  have isSession := (execSelectRefreshToken_eq_some found).2.2
  rw [present] at isSession
  cases isSession
  exact found

private theorem rowKept_refl
    (found : rowOf service db token = some (row, session))
    (text : Option String) :
    RowKept service db db text token row session :=
  ⟨row, session, found, by simp [Overtakes]⟩

/-- A text of another session does not overtake a token. -/
theorem not_overtakes {other : RefreshTokenRow} {otherSession : SessionRow}
    (reached : AuthDb)
    (isPresented : rowOf service db presented = some (other, otherSession))
    (found : rowOf service db token = some (row, session))
    (different : other.sessionId ≠ row.sessionId) :
    ¬Overtakes service db reached (some presented) token := by
  rintro ⟨-, text, ⟨⟩, left, right, leftFound, rightFound, same⟩
  rw [isPresented] at leftFound
  rw [found] at rightFound
  cases leftFound
  cases rightFound
  exact different same

/-- A revocation uses up the tokens of its session. -/
theorem rowKept_revoked {other : RefreshTokenRow} {otherSession : SessionRow}
    (chains : Chains db)
    (isPresented : rowOf service db presented = some (other, otherSession))
    (found : rowOf service db token = some (row, session)) (now : Timestamp) :
    RowKept service db (revoked other.familyId other.sessionId now db)
      (some presented) token row session := by
  by_cases unchanged : revoked other.familyId other.sessionId now db = db
  · rw [unchanged]
    exact rowKept_refl found _
  obtain ⟨otherMember, -, -⟩ := execSelectRefreshToken_eq_some isPresented
  obtain ⟨member, hash, present⟩ := execSelectRefreshToken_eq_some found
  have kept := sameToken_revokeToken other.familyId now row
  have nextFound : rowOf service
      (revoked other.familyId other.sessionId now db) token =
        some (revokeToken other.familyId now row,
          revokeRow other.sessionId now session) := by
    apply rowOf_eq chains.revoked (mem_revoked.mpr ⟨row, member, rfl⟩)
      (kept.tokenHash.trans hash)
    rw [lookup_sessions_revoked, kept.sessionId, present]
    rfl
  refine ⟨_, _, nextFound, ?_⟩
  by_cases sameSession : other.sessionId = row.sessionId
  · have sameFamily : row.familyId = other.familyId :=
      (chains.familySession row member other otherMember).mpr sameSession.symm
    have overtakes : Overtakes service db
        (revoked other.familyId other.sessionId now db) (some presented)
          token :=
      ⟨unchanged, presented, rfl, _, _, isPresented, found, sameSession⟩
    apply iff_of_true _ (Or.inr overtakes)
    rw [Used, isSome_revokedAt_revokeToken (Or.inl sameFamily)]
    simp
  · have otherFamily : row.familyId ≠ other.familyId := fun sameFamily =>
      sameSession ((chains.familySession row member other otherMember).mp
        sameFamily).symm
    have sessionId : session.id = row.sessionId := Table.key_of_lookup present
    have notOvertaken := not_overtakes
      (revoked other.familyId other.sessionId now db) isPresented found
      sameSession
    rw [revokeToken, if_neg otherFamily, revokeRow, if_neg
      (fun same => sameSession (same.symm.trans sessionId))]
    exact ⟨Or.inl, fun either => either.resolve_right notOvertaken⟩

private theorem hash_of_issued {tokenPrefix : String} {random : FixedBytes 32}
    {issued : IssuedOpaqueToken}
    (isIssued : issueOpaqueToken service.library tokenPrefix random =
      .ok issued) :
    issued.hash =
      hashOpaqueToken service.library (utf8Bytes issued.secret) := by
  rw [issueOpaqueToken] at isIssued
  split at isIssued
  · cases isIssued
  · cases isIssued
    rfl

private theorem Rotates.isNext {bytes : Bytes} {other : RefreshTokenRow}
    {otherSession : SessionRow} {issued : IssuedOpaqueToken}
    (rotates : Rotates service context bytes db other otherSession issued)
    (chains : Chains db) :
    Chains.Next db other (nextToken context issued other otherSession) := by
  obtain ⟨member, -, -⟩ := execSelectRefreshToken_eq_some rotates.found
  have insertable := (execInsertRefreshToken_eq_ok rotates.inserted).2
  have unused := rotates.unused
  simp only [Bool.or_eq_false_iff, Option.isSome_eq_false_iff,
    Option.isNone_iff_eq_none] at unused
  obtain ⟨after, bounded⟩ := wrappingAdd_one
    (chains.generationRange other member) insertable.nonnegative
  exact
    { member
      unconsumed := unused.1.1
      freshId := insertable.freshId
      freshHash := insertable.freshHash
      familyId := rfl
      sessionId := rfl
      generation := after
      bounded
      nextUnconsumed := rfl }

/-- Rotations leave the revocation of a session alone. -/
theorem lookup_sessions_rotatedDb (context : CallContext)
    (issued : IssuedOpaqueToken) (other : RefreshTokenRow)
    (otherSession : SessionRow) {id : Uuid}
    (present : db.sessions.lookup id = some session) :
    ∃ next, (rotatedDb context issued other otherSession db).sessions.lookup id =
        some next ∧ next.revokedAt = session.revokedAt := by
  simp only [rotatedDb, applyWrite, Table.lookup_update, present,
    Option.map_some, decide_eq_true_eq]
  refine ⟨_, rfl, ?_⟩
  split
  · rfl
  · rfl

/-- A rotation uses up the other tokens of its session. -/
theorem rowKept_rotated {other : RefreshTokenRow} {otherSession : SessionRow}
    {issued : IssuedOpaqueToken} (chains : Chains db)
    (rotates : Rotates service context (utf8Bytes presented) db other
      otherSession issued)
    (found : rowOf service db token = some (row, session)) :
    RowKept service db (rotatedDb context issued other otherSession db)
      (some presented) token row session := by
  have isNext := rotates.isNext chains
  have isPresented : rowOf service db presented =
      some (other, otherSession) := rotates.found
  obtain ⟨member, hash, present⟩ := execSelectRefreshToken_eq_some found
  obtain ⟨next, nextPresent, sameRevoked⟩ :=
    lookup_sessions_rotatedDb context issued other otherSession present
  have nextFound : rowOf service
      (rotatedDb context issued other otherSession db) token =
        some (consume other.id context.now context.tokenId row, next) := by
    apply rowOf_eq (chains.rotated isNext)
      ((Chains.mem_rotated isNext).mpr (Or.inr ⟨row, member, rfl⟩))
    · rw [tokenHash_consume, hash]
    · rw [sessionId_consume]
      exact nextPresent
  have changed : rotatedDb context issued other otherSession db ≠ db :=
    fun same => refreshTokens_rotatedDb_ne rotates.inserted
      (congrArg AuthDb.refreshTokens same)
  refine ⟨_, _, nextFound, ?_⟩
  by_cases sameSession : other.sessionId = row.sessionId
  · have sameFamily : row.familyId = other.familyId :=
      (chains.familySession row member other isNext.member).mpr
        sameSession.symm
    have overtakes : Overtakes service db
        (rotatedDb context issued other otherSession db) (some presented)
          token :=
      ⟨changed, presented, rfl, _, _, isPresented, found, sameSession⟩
    apply iff_of_true _ (Or.inr overtakes)
    have consumed : (consume other.id context.now context.tokenId
        row).consumedAt.isSome = true := by
      rw [consume]
      by_cases isOther : row.id = other.id
      · rw [if_pos isOther]
        rfl
      · rw [if_neg isOther]
        -- Only the last token of a family is unconsumed.
        by_contra unconsumed
        rw [Option.not_isSome_iff_eq_none] at unconsumed
        have same := chains.eq_of_unconsumed member isNext.member unconsumed
          isNext.unconsumed sameFamily
        exact isOther (congrArg RefreshTokenRow.id same)
    simp [Used, consumed]
  · have otherId : row.id ≠ other.id := fun same =>
      sameSession (congrArg RefreshTokenRow.sessionId
        (Table.eq_of_mem_of_key_eq member isNext.member same)).symm
    have notOvertaken := not_overtakes
      (rotatedDb context issued other otherSession db) isPresented found
      sameSession
    rw [consume, if_neg otherId, Used, Used, sameRevoked]
    exact ⟨Or.inl, fun either => either.resolve_right notOvertaken⟩

private theorem rowOf_rotated {bytes : Bytes} {other : RefreshTokenRow}
    {otherSession : SessionRow} {issued : IssuedOpaqueToken}
    (chains : Chains db)
    (rotates : Rotates service context bytes db other otherSession issued) :
    ∃ row session, rowOf service
        (rotatedDb context issued other otherSession db) issued.secret =
          some (row, session) ∧ ¬Used row session := by
  have isNext := rotates.isNext chains
  obtain ⟨-, -, present⟩ := execSelectRefreshToken_eq_some rotates.found
  obtain ⟨next, nextPresent, sameRevoked⟩ :=
    lookup_sessions_rotatedDb context issued other otherSession present
  have unused := rotates.unused
  rw [Bool.or_eq_false_iff] at unused
  refine ⟨nextToken context issued other otherSession, next, ?_, ?_⟩
  · exact rowOf_eq (chains.rotated isNext)
      ((Chains.mem_rotated isNext).mpr (Or.inl rfl))
      (hash_of_issued rotates.issues) nextPresent
  · rw [Used, sameRevoked, unused.2]
    exact Bool.false_ne_true

section Started

variable {issued : IssuedOpaqueToken} {user : LoginUser}

private theorem chains_startedDb (chains : Chains db)
    (freshSession : db.sessions.lookup context.sessionId = none)
    (insertable : Insertable
      (applyWrite (.session (loginSession context issued user)) db)
      (loginToken context issued)) :
    Chains (startedDb context issued user db) := by
  have insertableBefore : Insertable db (loginToken context issued) :=
    ⟨insertable.freshId, insertable.freshHash, insertable.freshGeneration,
      insertable.nonnegative⟩
  have step : AuthStep db (startedDb context issued user db) :=
    @AuthStep.started db (loginSession context issued user)
      (loginToken context issued) user.userId context.now freshSession
      insertableBefore rfl rfl rfl rfl
  exact step.chains chains

/-- A login leaves the tokens of other sessions alone. -/
theorem rowKept_started (chains : Chains db)
    (freshSession : db.sessions.lookup context.sessionId = none)
    (insertable : Insertable
      (applyWrite (.session (loginSession context issued user)) db)
      (loginToken context issued))
    (found : rowOf service db token = some (row, session)) :
    RowKept service db (startedDb context issued user db) none token row
      session := by
  obtain ⟨member, hash, present⟩ := execSelectRefreshToken_eq_some found
  refine ⟨row, session, ?_, by simp [Overtakes]⟩
  have differentId : row.id ≠ context.tokenId :=
    Table.lookup_eq_none_iff.mp insertable.freshId row member
  have differentSession : (loginSession context issued user).id ≠
      row.sessionId := by
    intro same
    rw [show context.sessionId = row.sessionId from same, present]
      at freshSession
    cases freshSession
  apply rowOf_eq (chains_startedDb chains freshSession insertable) _ hash
  · have sessions : (startedDb context issued user db).sessions =
        db.sessions.put (loginSession context issued user) := rfl
    rw [sessions, Table.lookup_put_of_ne differentSession]
    exact present
  · exact Table.mem_put.mpr (Or.inr ⟨member, differentId⟩)

private theorem rowOf_started (chains : Chains db)
    (isIssued : issueOpaqueToken service.library refreshPrefix
      context.refreshRandom = .ok issued)
    (freshSession : db.sessions.lookup context.sessionId = none)
    (insertable : Insertable
      (applyWrite (.session (loginSession context issued user)) db)
      (loginToken context issued)) :
    ∃ row session, rowOf service (startedDb context issued user db)
        issued.secret = some (row, session) ∧ ¬Used row session := by
  refine ⟨loginToken context issued, loginSession context issued user, ?_, ?_⟩
  · have sessions : (startedDb context issued user db).sessions =
        db.sessions.put (loginSession context issued user) := rfl
    apply rowOf_eq (chains_startedDb chains freshSession insertable)
      (Table.mem_put_self _ _) (hash_of_issued isIssued)
    rw [sessions]
    exact Table.lookup_put_self (loginSession context issued user) db.sessions
  · exact Bool.false_ne_true

end Started

end Rows

/-! ## Clients -/

/-- A request that somebody makes, with the faults that befall its call and the
client that gets the answer, if any. -/
inductive Request (β : Type) where
  | login (context : CallContext) (request : LoginRequest)
      (plan : List (Option SqlError)) (taker : Option β)
  | refresh (context : CallContext) (presented : String)
      (plan : List (Option SqlError)) (taker : Option β)
  | logout (context : CallContext) (presented : String)
      (plan : List (Option SqlError)) (taker : Option β)

def Request.taker {β : Type} : Request β → Option β
  | .login _ _ _ taker => taker
  | .refresh _ _ _ taker => taker
  | .logout _ _ _ taker => taker

/-- The text that the request presents as a token. -/
def Request.presented {β : Type} : Request β → Option String
  | .login .. => none
  | .refresh _ presented _ _ => some presented
  | .logout _ presented _ _ => some presented

/-- What the service has made of a request: the token that the answer gives or
takes back, and the database. -/
structure Handled where
  answer : Except AuthError (Option String)
  db : AuthDb

/-- The service handles a request. -/
def Request.handle {β : Type} (service : AuthService) (db : AuthDb) :
    Request β → Handled
  | .login context request plan _ =>
      let ended := (Backend.login service context request).callFaulty plan db
      ⟨ended.1.map fun issued => some issued.refreshToken.secret, ended.2⟩
  | .refresh context presented plan _ =>
      let ended :=
        (Backend.refresh service context (utf8Bytes presented)).callFaulty
          plan db
      ⟨ended.1.map fun issued => some issued.refreshToken.secret, ended.2⟩
  | .logout context presented plan _ =>
      let ended :=
        (Backend.logout service context (utf8Bytes presented)).callFaulty
          plan db
      ⟨ended.1.map fun _ => none, ended.2⟩

/-- The service and the clients, each with the token it has got last. -/
structure World (β : Type) where
  db : AuthDb
  held : β → Option String
  /-- Since the client has its token, a request with a token of the same session
  has changed the database. -/
  overtaken : β → Prop

/-- Nobody holds a token. -/
def World.initial (β : Type) (db : AuthDb) : World β :=
  ⟨db, fun _ => none, fun _ => False⟩

/-- What the service makes of a request fits the chains, the tokens that others
hold, and the token that it gives. -/
structure HandledWell (service : AuthService) (db : AuthDb)
    (presented : Option String) (handled : Handled) : Prop where
  chains : Chains handled.db
  keeps : ∀ token row session, rowOf service db token = some (row, session) →
    RowKept service db handled.db presented token row session
  gives : ∀ token, handled.answer = .ok (some token) →
    ∃ row session, rowOf service handled.db token = some (row, session) ∧
      ¬Used row session

/-- The token that the answer to a login or a refresh gives. -/
def secretOf (issued : IssuedSession) : Option String :=
  some issued.refreshToken.secret

private theorem secret_of_gives {service : AuthService} {context : CallContext}
    {issued : IssuedOpaqueToken} {session : SessionRow}
    {answer : Except AuthError IssuedSession} {token : String}
    (gives : Gives service context issued session answer)
    (isOk : answer.map secretOf = .ok (some token)) : token = issued.secret := by
  cases answer with
  | error failure => cases isOk
  | ok given =>
      cases isOk
      rw [(gives given rfl).refreshToken]

section Handling

variable {service : AuthService} {context : CallContext} {db reached : AuthDb}
  {presented : String}

private theorem LoginEnds.handledWell {answer : Except AuthError IssuedSession}
    (ended : LoginEnds service context db answer reached)
    (chains : Chains db) :
    HandledWell service db none ⟨answer.map secretOf, reached⟩ := by
  cases ended with
  | refused failure =>
      exact ⟨chains, fun _ _ _ found => rowKept_refl found none,
        fun _ isOk => by cases isOk⟩
  | started isIssued freshSession insertable gives =>
      refine ⟨chains_startedDb chains freshSession insertable, ?_, ?_⟩
      · intro token row session found
        exact rowKept_started chains freshSession insertable found
      · intro token isOk
        rw [secret_of_gives gives isOk]
        exact rowOf_started chains isIssued freshSession insertable

private theorem RefreshEnds.handledWell
    {answer : Except AuthError IssuedSession}
    (ended : RefreshEnds service context (utf8Bytes presented) db answer
      reached) (chains : Chains db) :
    HandledWell service db (some presented)
      ⟨answer.map secretOf, reached⟩ := by
  cases ended with
  | refused _ =>
      exact ⟨chains, fun _ _ _ found => rowKept_refl found _,
        fun _ isOk => by cases isOk⟩
  | revoked isPresented _ =>
      refine ⟨chains.revoked, ?_, fun _ isOk => by cases isOk⟩
      intro token row session found
      exact rowKept_revoked chains isPresented found context.now
  | rotated rotates gives _ =>
      refine ⟨chains.rotated (rotates.isNext chains), ?_, ?_⟩
      · intro token row session found
        exact rowKept_rotated chains rotates found
      · intro token isOk
        rw [secret_of_gives gives isOk]
        exact rowOf_rotated chains rotates

/-- The alarm is raised for a used token. -/
theorem RefreshEnds.used {answer : Except AuthError IssuedSession}
    (ended : RefreshEnds service context (utf8Bytes presented) db answer
      reached) (alarm : answer = .error .refreshReuseDetected) :
    ∃ row session, rowOf service db presented = some (row, session) ∧
      Used row session := by
  cases ended with
  | refused different =>
      cases alarm
      exact absurd rfl different
  | revoked isPresented used =>
      cases alarm
      exact ⟨_, _, isPresented, used rfl⟩
  | rotated _ _ different => exact absurd alarm different

/-- A token is given for an unused one. -/
theorem RefreshEnds.unused {answer : Except AuthError IssuedSession}
    {issued : IssuedSession}
    (ended : RefreshEnds service context (utf8Bytes presented) db answer
      reached) (isOk : answer = .ok issued) :
    ∃ row session, rowOf service db presented = some (row, session) ∧
      ¬Used row session := by
  cases ended with
  | refused _ => cases isOk
  | revoked _ _ => cases isOk
  | rotated rotates _ _ =>
      exact ⟨_, _, rotates.found, Bool.eq_false_iff.mp rotates.unused⟩

private theorem LogoutEnds.handledWell {answer : Except AuthError Unit}
    (ended : LogoutEnds service context (utf8Bytes presented) db answer
      reached) (chains : Chains db) :
    HandledWell service db (some presented)
      ⟨answer.map fun _ => none, reached⟩ := by
  have nothing : ∀ token : String,
      (answer.map fun _ => none) ≠ .ok (some token) := by
    intro token isOk
    cases answer with
    | error failure => cases isOk
    | ok done => cases isOk
  cases ended with
  | unchanged _ =>
      exact ⟨chains, fun _ _ _ found => rowKept_refl found _,
        fun token isOk => absurd isOk (nothing token)⟩
  | revoked _ isPresented =>
      refine ⟨chains.revoked, ?_, fun token isOk => absurd isOk (nothing token)⟩
      intro token row session found
      obtain ⟨otherSession, otherFound⟩ := chains.find_eq
        (List.mem_of_find?_eq_some isPresented)
        (by simpa using List.find?_some isPresented)
      exact rowKept_revoked chains otherFound found context.now

end Handling

private theorem handledWell {β : Type} (service : AuthService) {db : AuthDb}
    (chains : Chains db) (request : Request β) :
    HandledWell service db request.presented (request.handle service db) := by
  cases request with
  | login context login plan taker =>
      exact ((login_endsIn login).callFaulty plan).handledWell chains
  | refresh context presented plan taker =>
      exact (refresh_endsIn.callFaulty plan).handledWell chains
  | logout context presented plan taker =>
      exact (logout_endsIn.callFaulty plan).handledWell chains

section Worlds

variable {β : Type} [DecidableEq β]

/-- The client gets an answer that gives it a token or takes its token back. -/
def Request.Served (request : Request β) (handled : Handled) (client : β) :
    Prop :=
  request.taker = some client ∧ handled.answer.isOk = true

instance (request : Request β) (handled : Handled) (client : β) :
    Decidable (request.Served handled client) :=
  inferInstanceAs (Decidable (_ ∧ _))

def World.step (service : AuthService) (world : World β)
    (request : Request β) : World β where
  db := (request.handle service world.db).db
  held client :=
    if request.Served (request.handle service world.db) client then
      (request.handle service world.db).answer.toOption.join
    else
      world.held client
  overtaken client :=
    ¬request.Served (request.handle service world.db) client ∧
      (world.overtaken client ∨ ∃ token, world.held client = some token ∧
        Overtakes service world.db (request.handle service world.db).db
          request.presented token)

def World.run (service : AuthService) (world : World β)
    (requests : List (Request β)) : World β :=
  requests.foldl (World.step service) world

/-- The ghost of the world says which tokens are used. -/
structure World.Tracks (service : AuthService) (world : World β) : Prop where
  chains : Chains world.db
  known : ∀ client token, world.held client = some token →
    ∃ row session, rowOf service world.db token = some (row, session) ∧
      (Used row session ↔ world.overtaken client)

private theorem World.Tracks.step {service : AuthService} {world : World β}
    (tracks : world.Tracks service) (request : Request β) :
    (world.step service request).Tracks service := by
  have well := handledWell service tracks.chains request
  refine ⟨well.chains, fun client token holds => ?_⟩
  by_cases served :
      request.Served (request.handle service world.db) client
  · -- The client holds what the answer has given.
    have given : (request.handle service world.db).answer.toOption.join =
        some token := (if_pos served).symm.trans holds
    have isOk : (request.handle service world.db).answer =
        .ok (some token) := by
      cases answered : (request.handle service world.db).answer with
      | error failure =>
          rw [answered] at given
          cases given
      | ok other =>
          rw [answered] at given
          exact congrArg Except.ok given
    obtain ⟨row, session, found, notUsed⟩ := well.gives token isOk
    exact ⟨row, session, found,
      iff_of_false notUsed fun overtaken => overtaken.1 served⟩
  · have held : world.held client = some token :=
      (if_neg served).symm.trans holds
    obtain ⟨row, session, found, tracked⟩ := tracks.known client token held
    obtain ⟨next, nextSession, nextFound, used⟩ :=
      well.keeps token row session found
    refine ⟨next, nextSession, nextFound, ?_⟩
    rw [used, tracked]
    constructor
    · rintro (before | now)
      · exact ⟨served, Or.inl before⟩
      · exact ⟨served, Or.inr ⟨token, held, now⟩⟩
    · rintro ⟨-, before | ⟨other, otherHeld, now⟩⟩
      · exact Or.inl before
      · rw [held] at otherHeld
        cases otherHeld
        exact Or.inr now

private theorem World.Tracks.run {service : AuthService} {world : World β}
    (tracks : world.Tracks service) (requests : List (Request β)) :
    (world.run service requests).Tracks service := by
  induction requests generalizing world with
  | nil => exact tracks
  | cons request rest inductionHypothesis =>
      exact inductionHypothesis (tracks.step request)

omit [DecidableEq β] in
private theorem World.tracks_initial (service : AuthService) {db : AuthDb}
    (fresh : NoSessions db) : (World.initial β db).Tracks service :=
  ⟨chains_of_noSessions fresh, fun _ _ holds => by cases holds⟩

/-- A refresh with the token can end with the alarm. -/
def CanAlarm (service : AuthService) (db : AuthDb) (token : String) : Prop :=
  ∃ context plan, ((Backend.refresh service context
    (utf8Bytes token)).callFaulty plan db).1 = .error .refreshReuseDetected

/-- After any requests of anybody, a client that presents its token can get the
alarm if and only if its token has been overtaken.  Then it gets the alarm from
each refresh without faults, and no token from any other. -/
theorem alarm_iff_overtaken (service : AuthService) {first : AuthDb}
    (fresh : NoSessions first) (requests : List (Request β)) {client : β}
    {token : String}
    (holds : ((World.initial β first).run service requests).held client =
      some token) :
    let world := (World.initial β first).run service requests
    (CanAlarm service world.db token ↔ world.overtaken client) ∧
      (world.overtaken client →
        (∀ context, ((Backend.refresh service context
          (utf8Bytes token)).call world.db).1 =
            .error .refreshReuseDetected) ∧
        ∀ context plan issued, ((Backend.refresh service context
          (utf8Bytes token)).callFaulty plan world.db).1 ≠ .ok issued) := by
  intro world
  have tracks : world.Tracks service :=
    (World.tracks_initial service fresh).run requests
  obtain ⟨row, session, found, tracked⟩ := tracks.known client token holds
  have alarmed : Used row session → ∀ context,
      ((Backend.refresh service context (utf8Bytes token)).call world.db).1 =
        .error .refreshReuseDetected := by
    intro used context
    rw [call_refresh_reused found used]
  refine ⟨⟨?_, ?_⟩, ?_⟩
  · rintro ⟨context, plan, answered⟩
    obtain ⟨other, otherSession, isFound, used⟩ :=
      (refresh_endsIn.callFaulty plan).used answered
    cases found.symm.trans isFound
    exact tracked.mp used
  · intro overtaken
    exact ⟨Sample.context 0 0, [], alarmed (tracked.mpr overtaken) _⟩
  · intro overtaken
    refine ⟨alarmed (tracked.mpr overtaken), ?_⟩
    intro context plan issued answered
    obtain ⟨other, otherSession, isFound, unused⟩ :=
      (refresh_endsIn.callFaulty plan).unused answered
    cases found.symm.trans isFound
    exact unused (tracked.mpr overtaken)

end Worlds

namespace Sample

def firstSecret : String :=
  "snm_rt_" ++ library.base64Encode (List.replicate 32 1)

/-- One client logs in, and another one refreshes with a copy of its token. -/
def theft : List (Request Bool) :=
  [.login (context 10 1) ⟨"acme", "OPS@acme.test", "secret"⟩ [] (some false),
    .refresh (context 11 2) firstSecret [] (some true)]

end Sample

/-- The client whose token has been copied and used gets the alarm. -/
theorem alarm_iff_overtaken_theft :
    let world := (World.initial Bool Sample.start).run Sample.service
      Sample.theft
    world.held false = some Sample.firstSecret ∧ world.overtaken false := by
  have holds : ((World.initial Bool Sample.start).run Sample.service
      Sample.theft).held false = some Sample.firstSecret := by
    decide
  have alarm : CanAlarm Sample.service ((World.initial Bool Sample.start).run
      Sample.service Sample.theft).db Sample.firstSecret :=
    ⟨Sample.context 12 3, [], by decide⟩
  exact ⟨holds, (alarm_iff_overtaken Sample.service ⟨rfl, rfl⟩ Sample.theft
    holds).1.mp alarm⟩

end NetworkManager.Backend
