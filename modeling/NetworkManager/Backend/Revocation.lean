import NetworkManager.Backend.RowLocks

/-!
# Revoked and expired sessions

Any number of logins, refreshes and logouts run their statements concurrently.
A logout may miss a refresh token that is inserted meanwhile, but every refresh
holds the lock on the row of its session, and so finds the session revoked.  The
expiry of a session is never written again.
-/

namespace NetworkManager.Backend

open NetworkManager.Foundation
open NetworkManager.Security.Token
open NetworkManager.Transaction

/-- A logout whose result is the family and the session that it has found. -/
def logoutFound (service : AuthService) (context : CallContext)
    (presented : Bytes) : Store service (Option (Uuid × Uuid)) := do
  let row ← query service
    (.selectFamily (hashOpaqueToken service.library presented))
  match row with
  | none => do
      commit service
      return none
  | some (familyId, sessionId) => do
      revokeFamily service familyId sessionId context.now
      commit service
      return some (familyId, sessionId)

theorem logout_eq (service : AuthService) (context : CallContext)
    (presented : Bytes) :
    logout service context presented =
      (logoutFound service context presented >>= fun _ => pure ()) := by
  unfold logout logoutFound
  simp only [bind_assoc]
  congr 1
  funext row
  cases row with
  | none => rfl
  | some found => rfl

/-- A call, with the tokens that its update of a family reaches. -/
inductive ConcurrentCall where
  | login (context : CallContext) (request : LoginRequest)
  | refresh (context : CallContext) (presented : Bytes)
      (visible : Uuid → Bool)
  | logout (context : CallContext) (presented : Bytes)
      (visible : Uuid → Bool)

def rowClient (service : AuthService) :
    Client (rowSql service.lower) AuthError where
  Call := ConcurrentCall
  Result
    | .login .. => IssuedSession
    | .refresh .. => IssuedSession
    | .logout .. => Option (Uuid × Uuid)
  program
    | .login context request =>
        atRows (fun _ => true) (login service context request)
    | .refresh context presented visible =>
        atRows visible (refresh service context presented)
    | .logout context presented visible =>
        atRows visible (logoutFound service context presented)

/-- The rows of `before` are still there, with the same expiry, and what was
revoked is revoked. -/
structure Follows (before after : AuthDb) : Prop where
  sessions : ∀ id session, before.sessions.lookup id = some session →
    ∃ kept, after.sessions.lookup id = some kept ∧
      kept.expiresAt = session.expiresAt ∧
        ∀ instant, session.revokedAt = some instant →
          kept.revokedAt = some instant
  tokens : ∀ id token, before.refreshTokens.lookup id = some token →
    ∃ kept, after.refreshTokens.lookup id = some kept ∧
      kept.expiresAt = token.expiresAt

private theorem Follows.refl (db : AuthDb) : Follows db db where
  sessions := fun _ session found => ⟨session, found, rfl, fun _ same => same⟩
  tokens := fun _ token found => ⟨token, found, rfl⟩

private theorem Follows.trans {first middle last : AuthDb}
    (before : Follows first middle) (after : Follows middle last) :
    Follows first last where
  sessions := by
    intro id session found
    rcases before.sessions id session found with
      ⟨kept, keptFound, sameExpiry, stays⟩
    rcases after.sessions id kept keptFound with
      ⟨last, lastFound, lastExpiry, lastStays⟩
    exact ⟨last, lastFound, lastExpiry.trans sameExpiry,
      fun instant isRevoked => lastStays instant (stays instant isRevoked)⟩
  tokens := by
    intro id token found
    rcases before.tokens id token found with ⟨kept, keptFound, sameExpiry⟩
    rcases after.tokens id kept keptFound with ⟨last, lastFound, lastExpiry⟩
    exact ⟨last, lastFound, lastExpiry.trans sameExpiry⟩

/-- Every refresh token expires with its session. -/
def TokensExpire (db : AuthDb) : Prop :=
  ∀ id token, db.refreshTokens.lookup id = some token →
    ∃ session, db.sessions.lookup token.sessionId = some session ∧
      token.expiresAt = session.expiresAt

/-- A row that is inserted is new, and a token expires with its session. -/
def RowWrite.Fits (write : RowWrite) (db : AuthDb) : Prop :=
  match write with
  | .single (.session row) => db.sessions.lookup row.id = none
  | .single (.refreshToken row) => db.refreshTokens.lookup row.id = none ∧
      ∃ session, db.sessions.lookup row.sessionId = some session ∧
        row.expiresAt = session.expiresAt
  | _ => True

section Writes

variable {write : RowWrite} {db : AuthDb}

private theorem fits_lastLogin (userId : Uuid) (now : Timestamp) :
    (RowWrite.single (.lastLogin userId now)).Fits db := trivial

private theorem fits_consumed (id nextId : Uuid) (now : Timestamp) :
    (RowWrite.single (.consumed id now nextId)).Fits db := trivial

private theorem fits_sessionToken (sessionId : Uuid) (hash : FixedBytes 32)
    (tokenPrefix : String) (now : Timestamp) :
    (RowWrite.single (.sessionToken sessionId hash tokenPrefix now)).Fits
      db := trivial

private theorem fits_sessionRevoked (sessionId : Uuid) (now : Timestamp) :
    (RowWrite.single (.sessionRevoked sessionId now)).Fits db := trivial

private theorem fits_tokenRevoked (id : Uuid) (now : Timestamp) :
    (RowWrite.tokenRevoked id now).Fits db := trivial

private theorem changeRow_session (fits : write.Fits db) {id : Uuid}
    {session : SessionRow} (found : db.sessions.lookup id = some session) :
    ∃ kept, changeRow write (.session id) (some session) = some kept ∧
      kept.expiresAt = session.expiresAt ∧
        ∀ instant, session.revokedAt = some instant →
          kept.revokedAt = some instant := by
  cases write with
  | tokenRevoked changed now => exact ⟨session, rfl, rfl, fun _ same => same⟩
  | single write =>
      cases write with
      | session row =>
          have different : row.id ≠ id := by
            intro same
            have absent : db.sessions.lookup row.id = none := fits
            rw [same, found] at absent
            cases absent
          exact ⟨session, if_neg different, rfl, fun _ same => same⟩
      | sessionToken changed hash tokenPrefix now =>
          refine ⟨_, rfl, ?_⟩
          unfold rotateRow
          by_cases here : session.id = changed
          · rw [if_pos here]
            exact ⟨rfl, fun _ same => same⟩
          · rw [if_neg here]
            exact ⟨rfl, fun _ same => same⟩
      | sessionRevoked changed now =>
          refine ⟨_, rfl, ?_⟩
          unfold revokeRow
          by_cases here : session.id = changed
          · rw [if_pos here]
            refine ⟨rfl, fun instant isRevoked => ?_⟩
            exact congrArg (fun revokedAt => revokedAt.or (some now)) isRevoked
          · rw [if_neg here]
            exact ⟨rfl, fun _ same => same⟩
      | _ => exact ⟨session, rfl, rfl, fun _ same => same⟩

private theorem changeRow_token {id : Uuid} {token : RefreshTokenRow}
    (fits : write.Fits db) (found : db.refreshTokens.lookup id = some token) :
    ∃ kept, changeRow write (.token id) (some token) = some kept ∧
      kept.sessionId = token.sessionId ∧
        kept.expiresAt = token.expiresAt := by
  cases write with
  | tokenRevoked changed now =>
      refine ⟨_, rfl, ?_⟩
      unfold revokeOne
      by_cases here : token.id = changed
      · rw [if_pos here]
        exact ⟨rfl, rfl⟩
      · rw [if_neg here]
        exact ⟨rfl, rfl⟩
  | single write =>
      cases write with
      | refreshToken row =>
          have different : row.id ≠ id := by
            intro same
            have absent : db.refreshTokens.lookup row.id = none := fits.1
            rw [same, found] at absent
            cases absent
          exact ⟨token, if_neg different, rfl, rfl⟩
      | consumed changed now nextId =>
          refine ⟨_, rfl, ?_⟩
          unfold consume
          by_cases here : token.id = changed
          · rw [if_pos here]
            exact ⟨rfl, rfl⟩
          · rw [if_neg here]
            exact ⟨rfl, rfl⟩
      | tokensRevoked familyId now =>
          refine ⟨_, rfl, ?_⟩
          unfold revokeToken
          by_cases here : token.familyId = familyId
          · rw [if_pos here]
            exact ⟨rfl, rfl⟩
          · rw [if_neg here]
            exact ⟨rfl, rfl⟩
      | _ => exact ⟨token, rfl, rfl, rfl⟩

private theorem follows_applyRowWrite (fits : write.Fits db) :
    Follows db (applyRowWrite write db) where
  sessions := by
    intro id session found
    have changed := rowSlice_applyRowWrite write (.session id) db
    rcases changeRow_session fits found with ⟨kept, isKept, same⟩
    have slice : rowSlice (.session id) db = some session := found
    rw [slice, isKept] at changed
    exact ⟨kept, changed, same⟩
  tokens := by
    intro id token found
    have changed := rowSlice_applyRowWrite write (.token id) db
    rcases changeRow_token fits found with ⟨kept, isKept, _, sameExpiry⟩
    have slice : rowSlice (.token id) db = some token := found
    rw [slice, isKept] at changed
    exact ⟨kept, changed, sameExpiry⟩

/-- A token that was not there has been inserted. -/
theorem inserted_of_lookup {id : Uuid} {token : RefreshTokenRow}
    (absent : db.refreshTokens.lookup id = none)
    (found : (applyRowWrite write db).refreshTokens.lookup id = some token) :
    write = .single (.refreshToken token) := by
  have changed := rowSlice_applyRowWrite write (.token id) db
  have slice : rowSlice (.token id) db = none := absent
  have isToken : rowSlice (.token id) (applyRowWrite write db) = some token :=
    found
  rw [slice, isToken] at changed
  cases write with
  | tokenRevoked other now => cases changed
  | single write =>
      cases write with
      | refreshToken row =>
          by_cases same : row.id = id
          · have isRow := changed.trans (if_pos same)
            cases isRow
            rfl
          · cases changed.trans (if_neg same)
      | _ => cases changed

private theorem tokensExpire_applyRowWrite (fits : write.Fits db)
    (expire : TokensExpire db) : TokensExpire (applyRowWrite write db) := by
  have follows := follows_applyRowWrite fits
  intro id token found
  cases stored : db.refreshTokens.lookup id with
  | some old =>
      have changed := rowSlice_applyRowWrite write (.token id) db
      rcases changeRow_token fits stored with
        ⟨kept, isKept, sameSession, sameExpiry⟩
      have slice : rowSlice (.token id) db = some old := stored
      rw [slice, isKept] at changed
      have isToken : token = kept := Option.some.inj (found.symm.trans changed)
      rcases expire id old stored with ⟨session, sessionFound, expiry⟩
      rcases follows.sessions _ session sessionFound with
        ⟨later, laterFound, laterExpiry, _⟩
      rw [isToken, sameSession, sameExpiry]
      exact ⟨later, laterFound, expiry.trans laterExpiry.symm⟩
  | none =>
      rcases inserted_of_lookup stored found with rfl
      rcases fits.2 with ⟨session, sessionFound, expiry⟩
      rcases follows.sessions _ session sessionFound with
        ⟨later, laterFound, laterExpiry, _⟩
      exact ⟨later, laterFound, expiry.trans laterExpiry.symm⟩

end Writes

/-- Nothing that was there at the start is lost. -/
structure Keeping (start working : AuthDb) : Prop where
  follows : Follows start working
  expire : TokensExpire working

private theorem Keeping.write {start working : AuthDb} {write : RowWrite}
    (keeping : Keeping start working) (fits : write.Fits working) :
    Keeping start (applyRowWrite write working) where
  follows := keeping.follows.trans (follows_applyRowWrite fits)
  expire := tokensExpire_applyRowWrite fits keeping.expire

private theorem Keeping.revokes {start working : AuthDb}
    (keeping : Keeping start working) (lower : String → String)
    (tokens : List RefreshTokenRow) (now : Timestamp) :
    Keeping start ((rowSql lower).applyAll
      (tokens.map fun token => .tokenRevoked token.id now) working) := by
  induction tokens generalizing working with
  | nil => exact keeping
  | cons token rest inductionHypothesis =>
      exact inductionHypothesis
        (keeping.write (fits_tokenRevoked token.id now))

def SessionRevoked (sessionId : Uuid) (db : AuthDb) : Prop :=
  ∃ session, db.sessions.lookup sessionId = some session ∧
    session.revokedAt.isSome

private theorem sessionRevoked_apply {sessionId : Uuid} {now : Timestamp}
    {db : AuthDb} (present : (db.sessions.lookup sessionId).isSome) :
    SessionRevoked sessionId
      (applyRowWrite (.single (.sessionRevoked sessionId now)) db) := by
  rcases Option.isSome_iff_exists.mp present with ⟨session, found⟩
  have changed := rowSlice_applyRowWrite
    (.single (.sessionRevoked sessionId now)) (.session sessionId) db
  have slice : rowSlice (.session sessionId) db = some session := found
  rw [slice] at changed
  exact ⟨_, changed, isSome_revokedAt_revokeRow
    (Or.inl (Table.key_of_lookup found))⟩

/-- A program that runs under the row locks it takes. -/
abbrev OnRows {lower : String → String} {α : Type}
    (program : Program (rowSql lower) AuthError α)
    (holds : Program (rowSql lower) AuthError α → AuthDb → Prop)
    (held : List RowKey) (working : AuthDb) : Prop :=
  program.Locked (rowLocking lower) (fun _ _ _ => True) holds held working

section Parts

variable {service : AuthService} {α : Type} {visible : Uuid → Bool}
  {holds : Program (rowSql service.lower) AuthError α → AuthDb → Prop}
  {held : List RowKey} {start working : AuthDb}

private theorem onRows_query {statement : Statement}
    {next : Reply statement → Store service α}
    (rest : ∀ view reply writes,
      (rowLocking service.lower).Agree
        (held ++ lockedRows ⟨statement, visible⟩ view) view working →
      (authSql service.lower).exec statement view = .ok (reply, writes) →
      OnRows (atRows visible (next reply)) holds
        (held ++ lockedRows ⟨statement, visible⟩ view)
        ((rowSql service.lower).applyAll
          (writes.flatMap (rowWrites visible view)) working)) :
    OnRows (atRows visible (query service statement >>= next)) holds held
      working := by
  constructor
  · intro view reply changes _ answered
    rcases onRows_eq_ok answered with ⟨writes, inner, rfl⟩
    exact (covers_rowWrites inner).mono (List.subset_append_right _ _)
  · intro view reply changes agree answered
    rcases onRows_eq_ok answered with ⟨writes, inner, rfl⟩
    exact rest view reply writes agree inner

private theorem onRows_commit {next : Unit → Store service α}
    (last : (atRows visible (next ())).CommitFree)
    (now : holds (atRows visible (next ())) working) :
    OnRows (atRows visible (commit service >>= next)) holds held working :=
  .commit last now

private theorem onRows_check {passed : Bool} {failure : AuthError}
    {next : Unit → Store service α}
    (rest : passed = true → OnRows (atRows visible (next ())) holds held
      working) :
    OnRows (atRows visible (Program.check passed failure >>= next)) holds held
      working := by
  cases passed with
  | false => exact .done trivial
  | true => exact rest rfl

private theorem onRows_ofExcept {β : Type} {outcome : Except AuthError β}
    {next : β → Store service α}
    (rest : ∀ value, outcome = .ok value →
      OnRows (atRows visible (next value)) holds held working) :
    OnRows (atRows visible (Program.ofExcept outcome >>= next)) holds held
      working := by
  cases outcome with
  | error failure => exact .done trivial
  | ok value => exact rest value rfl

private theorem commitFree_atRows {lower : String → String} {ε : Type}
    {program : Program (authSql lower) ε α} (commitFree : program.CommitFree) :
    (atRows visible program).CommitFree := by
  induction commitFree with
  | done outcome => exact .done outcome
  | exec _ inductionHypothesis => exact .exec inductionHypothesis

/-- Revoking a family leaves its session revoked. -/
theorem onRows_revokeFamily {familyId sessionId : Uuid} {now : Timestamp}
    {outcome : Except AuthError α} (keeping : Keeping start working)
    (present : (start.sessions.lookup sessionId).isSome)
    (revoked : ∀ after, Keeping start after → SessionRevoked sessionId after →
      holds (.done outcome) after) :
    OnRows (atRows visible (revokeFamily service familyId sessionId now >>=
      fun _ => commit service >>= fun _ => Program.done outcome)) holds held
      working := by
  unfold revokeFamily
  rw [bind_assoc]
  apply onRows_query
  intro view _ writes _ answered
  cases answered
  rw [List.flatMap_singleton, rowWrites]
  have kept := keeping.revokes service.lower
    (reachedTokens visible familyId view) now
  apply onRows_query
  intro later _ writes _ answered
  cases answered
  have isSingle : rowWrites visible later (.sessionRevoked sessionId now) =
      [.single (.sessionRevoked sessionId now)] := rfl
  rw [List.flatMap_singleton, isSingle]
  apply onRows_commit
  · exact .done _
  · apply revoked _ (kept.write (fits_sessionRevoked sessionId now))
    apply sessionRevoked_apply
    rcases Option.isSome_iff_exists.mp present with ⟨session, found⟩
    rcases kept.follows.sessions sessionId session found with
      ⟨stored, storedFound, _⟩
    exact Option.isSome_of_eq_some storedFound

end Parts

/-! ## The calls under their locks -/

/-- The session is neither revoked nor expired. -/
def SessionLive (sessionId : Uuid) (now : Timestamp) (db : AuthDb) : Prop :=
  ∃ session, db.sessions.lookup sessionId = some session ∧
    session.revokedAt = none ∧ now < session.expiresAt

/-- What the commit of a call means for sessions: a refresh that goes on to
return tokens has found its session live, and one that reports a reuse has
revoked it, as has a logout that has found one. -/
def Acts (service : AuthService) :
    (call : ConcurrentCall) → AuthDb → AuthDb →
      Program (rowSql service.lower) AuthError
        ((rowClient service).Result call) → Prop
  | .login .., _, _, _ => True
  | .refresh context presented _, before, after, rest =>
      (∀ issued, rest.Returns (fun _ => True) (.ok issued) →
        SessionLive issued.identity.sessionId context.now before) ∧
      (rest.Returns (fun _ => True) (.error .refreshReuseDetected) →
        ∃ token ∈ before.refreshTokens.rows,
          token.tokenHash = hashOpaqueToken service.library presented ∧
            SessionRevoked token.sessionId after)
  | .logout .., _, after, rest => ∀ familyId sessionId,
      rest.Returns (fun _ => True) (.ok (some (familyId, sessionId))) →
        SessionRevoked sessionId after

section Calls

variable {service : AuthService} {context : CallContext} {start : AuthDb}

private theorem returns_done {D : Database} {ε α : Type} {sees : D.State → Prop}
    {outcome returned : Except ε α}
    (ended : (Program.done outcome : Program D ε α).Returns sees returned) :
    returned = outcome := by
  cases ended
  rfl

/-- A row that an insertion does not find in its view is new. -/
theorem fits_session {held : List RowKey} {working view : AuthDb}
    {row : SessionRow} {visible : Uuid → Bool}
    (agree : (rowLocking service.lower).Agree
      (held ++ lockedRows ⟨.insertSession row, visible⟩ view) view working)
    (absent : view.sessions.lookup row.id = none) :
    (RowWrite.single (.session row)).Fits working :=
  (agree (.session row.id) (List.mem_append_right _
    List.mem_cons_self)).symm.trans absent

private theorem fits_token {held : List RowKey} {working view : AuthDb}
    {row : RefreshTokenRow} {session : SessionRow} {visible : Uuid → Bool}
    (agree : (rowLocking service.lower).Agree
      (held ++ lockedRows ⟨.insertRefreshToken row, visible⟩ view) view
        working)
    (absent : view.refreshTokens.lookup row.id = none)
    (found : working.sessions.lookup row.sessionId = some session)
    (sameExpiry : row.expiresAt = session.expiresAt) :
    (RowWrite.single (.refreshToken row)).Fits working :=
  ⟨(agree (.token row.id) (List.mem_append_right _
    List.mem_cons_self)).symm.trans absent, session, found, sameExpiry⟩

/-- The session that a login starts. -/
def firstSession (context : CallContext) (user : LoginUser)
    (issued : IssuedOpaqueToken) : SessionRow where
  id := context.sessionId
  organizationId := user.organizationId
  userId := user.userId
  refreshTokenHash := issued.hash
  refreshTokenPrefix := issued.visiblePrefix
  expiresAt := context.now + intervalSeconds (refreshTtlDays * (24 * 60 * 60))
  lastUsedAt := some context.now
  authTime := context.now
  revokedAt := none
  accessRevokedBefore := none
  createdAt := context.dbNow

private theorem onRows_login
    {request : LoginRequest} (expire : TokensExpire start) :
    OnRows (atRows (fun _ => true) (login service context request))
      (fun _ after => Keeping start after) [] start := by
  have keeping : Keeping start start := ⟨Follows.refl start, expire⟩
  unfold login
  apply onRows_check
  intro _
  apply onRows_query
  intro view user writes _ answered
  have isAnswer : (execSelectLoginUser service.lower request.organizationSlug
      request.email view, ([] : List Write)) = (user, writes) :=
    Except.ok.inj answered
  rw [← (Prod.mk.inj isAnswer).2]
  cases user with
  | none => exact .done trivial
  | some user =>
      apply onRows_check
      intro _
      apply onRows_ofExcept
      intro refresh _
      apply onRows_ofExcept
      intro csrf _
      apply onRows_query
      intro view _ writes agree inserted
      rcases execInsertSession_eq_ok inserted with ⟨rfl, absent⟩
      have withSession := keeping.write (fits_session agree absent)
      apply onRows_query
      intro view _ writes agree inserted
      rcases execInsertRefreshToken_eq_ok inserted with ⟨rfl, insertable⟩
      have stored : (applyRowWrite (.single (.session
          (firstSession context user refresh))) start).sessions.lookup
            context.sessionId = some (firstSession context user refresh) :=
        Table.lookup_put_self (firstSession context user refresh)
          start.sessions
      have withToken := withSession.write
        (fits_token agree insertable.freshId stored rfl)
      apply onRows_query
      intro view _ writes agree answered
      cases answered
      have done := withToken.write (fits_lastLogin user.userId context.now)
      apply onRows_commit
      · apply commitFree_atRows
        exact (Program.commitFree_statement _ _).bind fun permissions =>
          (Program.commitFree_ofExcept _).bind fun _ => .done _
      · exact done

/-- The answer of a refresh is about the session of its token. -/
theorem returns_answerRefresh {visible : Uuid → Bool}
    {token : RefreshTokenRow} {session : SessionRow}
    {issued csrf : IssuedOpaqueToken} {outcome : Except AuthError IssuedSession}
    (returned : (atRows visible (answerRefresh service context token session
      issued csrf)).Returns (fun _ => True) outcome) :
    outcome = .error .unavailable ∨ ∃ given, outcome = .ok given ∧
      given.identity.sessionId = token.sessionId := by
  cases returned with
  | refused fault => exact Or.inl rfl
  | @exec _ _ _ view permissions _ _ _ _ later =>
      have encoding (encoded : Except TokenError String)
          (ended : (atRows visible (available service encoded >>=
            fun accessToken => pure (IssuedSession.mk ⟨token.sessionId,
              session.userId, session.organizationId, permissions⟩ accessToken
                issued csrf))).Returns (fun _ => True) outcome) :
          outcome = .error .unavailable ∨ ∃ given, outcome = .ok given ∧
            given.identity.sessionId = token.sessionId := by
        cases encoded with
        | error failure => exact Or.inl (returns_done ended)
        | ok accessToken => exact Or.inr ⟨_, returns_done ended, rfl⟩
      exact encoding _ later

/-- A rotation finds the session as it was locked. -/
theorem onRows_rotateToken {presented : Bytes} {visible : Uuid → Bool}
    {token : RefreshTokenRow} {session : SessionRow}
    {issued csrf : IssuedOpaqueToken} {held : List RowKey}
    (expire : TokensExpire start)
    (stored : start.sessions.lookup token.sessionId = some session)
    (notRevoked : session.revokedAt = none)
    (live : context.now < session.expiresAt) :
    OnRows (atRows visible (rotateToken service context token session issued
        csrf))
      (fun rest after => Keeping start after ∧
        Acts service (.refresh context presented visible) start after rest)
      held start := by
  have keeping : Keeping start start := ⟨Follows.refl start, expire⟩
  unfold rotateToken
  apply onRows_query
  intro view _ writes agree inserted
  rcases execInsertRefreshToken_eq_ok inserted with ⟨rfl, insertable⟩
  have withNext := keeping.write
    (fits_token agree insertable.freshId stored rfl)
  apply onRows_query
  intro view _ writes agree consumed
  have isConsumed := execConsumeRefreshToken_eq_ok consumed
  subst isConsumed
  have withConsumed := withNext.write
    (fits_consumed token.id context.tokenId context.now)
  apply onRows_query
  intro view _ writes agree answered
  cases answered
  have done := withConsumed.write (fits_sessionToken token.sessionId
    issued.hash issued.visiblePrefix context.now)
  apply onRows_commit
  · apply commitFree_atRows
    exact (Program.commitFree_statement _ _).bind fun permissions =>
      (Program.commitFree_ofExcept _).bind fun _ => .done _
  · refine ⟨done, ?_, ?_⟩
    · intro given returned
      rcases returns_answerRefresh returned with failed | ⟨same, isSame, ofToken⟩
      · cases failed
      · cases isSame
        rw [ofToken]
        exact ⟨session, stored, notRevoked, live⟩
    · intro returned
      rcases returns_answerRefresh returned with failed | ⟨_, isOk, _⟩
      · cases failed
      · cases isOk

private theorem onRows_logout {presented : Bytes} {visible : Uuid → Bool}
    (expire : TokensExpire start) :
    OnRows (atRows visible (logoutFound service context presented))
      (fun rest after => Keeping start after ∧
        Acts service (.logout context presented visible) start after rest) []
      start := by
  have keeping : Keeping start start := ⟨Follows.refl start, expire⟩
  unfold logoutFound
  apply onRows_query
  intro view row writes agree answered
  have isAnswer : ((view.refreshTokens.rows.find? fun token =>
      token.tokenHash = hashOpaqueToken service.library presented).map
        fun token => (token.familyId, token.sessionId), ([] : List Write)) =
      (row, writes) := Except.ok.inj answered
  rw [← (Prod.mk.inj isAnswer).1, ← (Prod.mk.inj isAnswer).2]
  cases found : view.refreshTokens.rows.find? fun token =>
      token.tokenHash = hashOpaqueToken service.library presented with
  | none =>
      apply onRows_commit
      · exact .done _
      · refine ⟨keeping, ?_⟩
        intro familyId sessionId returned
        cases returns_done returned
  | some token =>
      have locks : RowKey.token token.id ∈ lockedRows ⟨.selectFamily
          (hashOpaqueToken service.library presented), visible⟩ view := by
        simp [lockedRows, found]
      have stored : start.refreshTokens.lookup token.id = some token :=
        (agree (.token token.id) locks).symm.trans
          (Table.lookup_of_mem (List.mem_of_find?_eq_some found))
      rcases expire token.id token stored with ⟨session, sessionFound, _⟩
      apply onRows_revokeFamily keeping (Option.isSome_of_eq_some sessionFound)
      intro after kept isRevoked
      refine ⟨kept, ?_⟩
      intro familyId sessionId returned
      cases returns_done returned
      exact isRevoked

/-- The row that a refresh has found is locked, and so is its session. -/
theorem stored_of_selected {visible : Uuid → Bool} {hash : FixedBytes 32}
    {view : AuthDb} {token : RefreshTokenRow} {session : SessionRow}
    (agree : (rowLocking service.lower).Agree
      ([] ++ lockedRows ⟨.selectRefreshToken hash, visible⟩ view) view start)
    (found : execSelectRefreshToken hash view = some (token, session)) :
    start.refreshTokens.lookup token.id = some token ∧
      start.sessions.lookup token.sessionId = some session ∧
        token.tokenHash = hash := by
  rcases execSelectRefreshToken_eq_some found with
    ⟨member, sameHash, sessionFound⟩
  have sameId : session.id = token.sessionId := Table.key_of_lookup sessionFound
  have locksToken : RowKey.token token.id ∈
      lockedRows ⟨.selectRefreshToken hash, visible⟩ view := by
    simp [lockedRows, found]
  have locksSession : RowKey.session token.sessionId ∈
      lockedRows ⟨.selectRefreshToken hash, visible⟩ view := by
    simp [lockedRows, found, sameId]
  exact ⟨(agree (.token token.id) locksToken).symm.trans
      (Table.lookup_of_mem member),
    (agree (.session token.sessionId) locksSession).symm.trans sessionFound,
    sameHash⟩

private theorem onRows_refresh {presented : Bytes} {visible : Uuid → Bool}
    (expire : TokensExpire start) :
    OnRows (atRows visible (refresh service context presented))
      (fun rest after => Keeping start after ∧
        Acts service (.refresh context presented visible) start after rest) []
      start := by
  have keeping : Keeping start start := ⟨Follows.refl start, expire⟩
  rcases issueOpaqueToken_ok service.library refreshPrefix (by simp)
    context.refreshRandom with ⟨issued, refreshIssued⟩
  rcases issueOpaqueToken_ok service.library csrfPrefix (by simp)
    context.csrfRandom with ⟨csrf, csrfIssued⟩
  rw [refresh_eq refreshIssued csrfIssued]
  apply onRows_query
  intro view row writes agree answered
  have isAnswer : (execSelectRefreshToken
      (hashOpaqueToken service.library presented) view, ([] : List Write)) =
      (row, writes) := Except.ok.inj answered
  rw [← (Prod.mk.inj isAnswer).1, ← (Prod.mk.inj isAnswer).2]
  cases found : execSelectRefreshToken
      (hashOpaqueToken service.library presented) view with
  | none => exact .done trivial
  | some pair =>
      rcases pair with ⟨token, session⟩
      rcases stored_of_selected agree found with
        ⟨tokenStored, sessionStored, sameHash⟩
      have refuses {failure : AuthError} {held : List RowKey} :
          OnRows (atRows visible (refuseToken service context token failure))
            (fun rest after => Keeping start after ∧
              Acts service (.refresh context presented visible) start after
                rest) held start := by
        apply onRows_revokeFamily keeping
          (Option.isSome_of_eq_some sessionStored)
        intro after kept isRevoked
        refine ⟨kept, ?_, ?_⟩
        · intro given returned
          cases returns_done returned
        · intro _
          exact ⟨token, Table.mem_of_lookup tokenStored, sameHash, isRevoked⟩
      rw [refreshFound]
      by_cases used : (token.consumedAt.isSome || token.revokedAt.isSome ||
          session.revokedAt.isSome) = true
      · rw [if_pos used]
        exact refuses
      rw [if_neg used]
      by_cases late : token.expiresAt ≤ context.now ∨
          session.expiresAt ≤ context.now
      · rw [if_pos late]
        exact refuses
      rw [if_neg late]
      simp only [Bool.or_eq_true, not_or, Bool.not_eq_true,
        Option.isSome_eq_false_iff, Option.isNone_iff_eq_none] at used
      exact onRows_rotateToken expire sessionStored used.2
        (not_le.mp (not_or.mp late).2)

end Calls

/-! ## Every interleaving -/

/-- What a commit of the service means for sessions and their tokens. -/
structure Made (service : AuthService) (commit : Commit (rowClient service)) :
    Prop where
  expire : TokensExpire commit.before
  follows : Follows commit.before commit.after
  acts : Acts service commit.call commit.before commit.after commit.rest

private theorem keeps_made (service : AuthService) :
    System.Keeps (rowClient service) (rowLocking service.lower) TokensExpire
      (Made service) := by
  intro call start expire
  cases call with
  | login context request =>
      apply (onRows_login expire).weaken_holds
      intro rest after keeping
      exact ⟨keeping.expire, expire, keeping.follows, trivial⟩
  | refresh context presented visible =>
      apply (onRows_refresh expire).weaken_holds
      rintro rest after ⟨keeping, acts⟩
      exact ⟨keeping.expire, expire, keeping.follows, acts⟩
  | logout context presented visible =>
      apply (onRows_logout expire).weaken_holds
      rintro rest after ⟨keeping, acts⟩
      exact ⟨keeping.expire, expire, keeping.follows, acts⟩

private theorem tokensExpire_of_noSessions
    {db : AuthDb} (none : NoSessions db) :
    TokensExpire db := by
  intro id token found
  rw [none.2] at found
  cases found

/-- The commit is that of a refresh, at this time, which may go on to return
these tokens. -/
def IssuesAt (service : AuthService) :
    (call : ConcurrentCall) →
      Program (rowSql service.lower) AuthError
        ((rowClient service).Result call) →
      Timestamp → IssuedSession → Prop
  | .refresh context _ _, rest, now, issued =>
      context.now = now ∧ rest.Returns (fun _ => True) (.ok issued)
  | _, _, _, _ => False

/-- The commit is that of a logout which has found the session, or that of a
refresh which reports the reuse of a token of the session. -/
def Ends (service : AuthService) (sessionId : Uuid) :
    (call : ConcurrentCall) → AuthDb →
      Program (rowSql service.lower) AuthError
        ((rowClient service).Result call) → Prop
  | .logout .., _, rest => ∃ familyId,
      rest.Returns (fun _ => True) (.ok (some (familyId, sessionId)))
  | .refresh _ presented _, before, rest =>
      rest.Returns (fun _ => True) (.error .refreshReuseDetected) ∧
        ∀ token ∈ before.refreshTokens.rows,
          token.tokenHash = hashOpaqueToken service.library presented →
            token.sessionId = sessionId
  | .login .., _, _ => False

/-- A state that was committed at some time. -/
def Committed {service : AuthService}
    (commits : List (Commit (rowClient service))) (last state : AuthDb) :
    Prop :=
  History.Visits commits last state

/-- No later commit issues tokens for the session, and no access token of it is
accepted by a call that sees later states. -/
structure Over (service : AuthService) (sessionId : Uuid)
    (later : List (Commit (rowClient service))) (last : AuthDb) : Prop where
  refreshes : ∀ commit ∈ later, ∀ now issued,
    IssuesAt service commit.call commit.rest now issued →
      issued.identity.sessionId ≠ sessionId
  accessTokens : ∀ now token identity,
    (authenticateAccess service now token).Returns (Committed later last)
        (.ok identity) →
      identity.sessionId ≠ sessionId

/-- Nothing is issued or accepted for the session from its expiry on. -/
structure Expires (service : AuthService) (session : SessionRow)
    (commits : List (Commit (rowClient service))) (last : AuthDb) : Prop where
  refreshes : ∀ commit ∈ commits, ∀ now issued,
    IssuesAt service commit.call commit.rest now issued →
      issued.identity.sessionId = session.id → now < session.expiresAt
  accessTokens : ∀ now token identity,
    (authenticateAccess service now token).Returns (Committed commits last)
        (.ok identity) →
      identity.sessionId = session.id → now < session.expiresAt

/-- Revocation and expiry are final in a history of commits. -/
structure SessionsFinal (service : AuthService)
    (commits : List (Commit (rowClient service))) (last : AuthDb) : Prop where
  ended : ∀ newer commit older, commits = newer ++ commit :: older →
    ∀ sessionId, Ends service sessionId commit.call commit.before
      commit.rest → Over service sessionId newer last
  expired : ∀ state, Committed commits last state →
    ∀ session ∈ state.sessions.rows, Expires service session commits last
  /-- The expiry of a session is the one that it has at first. -/
  sessionExpiry : ∀ left right, Committed commits last left →
    Committed commits last right →
    ∀ first ∈ left.sessions.rows, ∀ second ∈ right.sessions.rows,
      first.id = second.id → first.expiresAt = second.expiresAt
  tokenExpiry : ∀ left right, Committed commits last left →
    Committed commits last right →
    ∀ first ∈ left.refreshTokens.rows, ∀ second ∈ right.refreshTokens.rows,
      first.id = second.id → first.expiresAt = second.expiresAt
  /-- Every token expires with its session. -/
  sameExpiry : ∀ state, Committed commits last state →
    ∀ token ∈ state.refreshTokens.rows,
      ∃ session, state.sessions.lookup token.sessionId = some session ∧
        token.expiresAt = session.expiresAt

section Final

variable {service : AuthService} {first last : AuthDb}
  {commits : List (Commit (rowClient service))}

/-- An access token is accepted for a live session of a state that is seen. -/
theorem returns_authenticateAccess {sees : AuthDb → Prop} {now : Timestamp}
    {token : String} {identity : SessionIdentity}
    (returned : (authenticateAccess service now token).Returns sees
      (.ok identity)) :
    ∃ state, sees state ∧ SessionLive identity.sessionId now state := by
  rcases returned.of_bind_ok with ⟨claims, _, returned⟩
  rcases returned.of_bind_ok with ⟨row, selected, returned⟩
  rcases selected.of_statement_ok with ⟨state, writes, seen, answered⟩
  have found : state.sessions.lookup claims.sid = row :=
    congrArg Prod.fst (Except.ok.inj answered)
  cases row with
  | none => cases returned
  | some session =>
      simp only at returned
      split at returned
      · cases returned
      · rename_i allowed
        simp only [not_or, Bool.not_eq_true, Option.isSome_eq_false_iff,
          Option.isNone_iff_eq_none, not_le] at allowed
        rcases returned.of_bind_ok with ⟨permissions, _, returned⟩
        cases returned
        exact ⟨state, seen, session, found, allowed.2.2.1, allowed.2.2.2.1⟩

/-- Of two committed states one follows the other. -/
theorem follows_of_history
    (history : History (Made service) first commits last) {left right : AuthDb}
    (leftVisited : Committed commits last left)
    (rightVisited : Committed commits last right) :
    Follows left right ∨ Follows right left :=
  (history.visits_ordered Follows.refl (fun _ _ _ => Follows.trans)
    (fun _ made => made.follows)).2 left right leftVisited rightVisited

private theorem Follows.sameSessionExpiry {left right : AuthDb}
    (follows : Follows left right ∨ Follows right left) {id : Uuid}
    {leftRow rightRow : SessionRow}
    (leftFound : left.sessions.lookup id = some leftRow)
    (rightFound : right.sessions.lookup id = some rightRow) :
    leftRow.expiresAt = rightRow.expiresAt := by
  rcases follows with forward | backward
  · rcases forward.sessions id leftRow leftFound with
      ⟨kept, keptFound, sameExpiry, _⟩
    cases rightFound.symm.trans keptFound
    exact sameExpiry.symm
  · rcases backward.sessions id rightRow rightFound with
      ⟨kept, keptFound, sameExpiry, _⟩
    cases leftFound.symm.trans keptFound
    exact sameExpiry

private theorem Follows.sameTokenExpiry {left right : AuthDb}
    (follows : Follows left right ∨ Follows right left) {id : Uuid}
    {leftRow rightRow : RefreshTokenRow}
    (leftFound : left.refreshTokens.lookup id = some leftRow)
    (rightFound : right.refreshTokens.lookup id = some rightRow) :
    leftRow.expiresAt = rightRow.expiresAt := by
  rcases follows with forward | backward
  · rcases forward.tokens id leftRow leftFound with
      ⟨kept, keptFound, sameExpiry⟩
    cases rightFound.symm.trans keptFound
    exact sameExpiry.symm
  · rcases backward.tokens id rightRow rightFound with
      ⟨kept, keptFound, sameExpiry⟩
    cases leftFound.symm.trans keptFound
    exact sameExpiry

/-- A commit that may issue tokens finds their session live. -/
theorem Made.live {commit : Commit (rowClient service)}
    (made : Made service commit) {now : Timestamp} {issued : IssuedSession}
    (issues : IssuesAt service commit.call commit.rest now issued) :
    SessionLive issued.identity.sessionId now commit.before := by
  have acts := made.acts
  rcases commit with ⟨call, before, after, rest⟩
  cases call with
  | login context request => cases issues
  | logout context presented visible => cases issues
  | refresh context presented visible =>
      rcases issues with ⟨sameTime, returned⟩
      rw [← sameTime]
      exact acts.1 issued returned

/-- A commit that ends a session leaves it revoked. -/
theorem Made.revoked {commit : Commit (rowClient service)}
    (made : Made service commit) {sessionId : Uuid}
    (ends : Ends service sessionId commit.call commit.before commit.rest) :
    SessionRevoked sessionId commit.after := by
  have acts := made.acts
  rcases commit with ⟨call, before, after, rest⟩
  cases call with
  | login context request => cases ends
  | logout context presented visible =>
      rcases ends with ⟨familyId, returned⟩
      exact acts familyId sessionId returned
  | refresh context presented visible =>
      rcases ends with ⟨returned, ofSession⟩
      rcases acts.2 returned with ⟨token, member, sameHash, isRevoked⟩
      rw [← ofSession token member sameHash]
      exact isRevoked

/-- A revoked session is over. -/
theorem over_of_revoked (history : History (Made service) first commits last)
    {sessionId : Uuid} (isRevoked : SessionRevoked sessionId first) :
    Over service sessionId commits last := by
  have notLive : ∀ state, Committed commits last state → ∀ now,
      ¬SessionLive sessionId now state := by
    rintro state visited now ⟨session, found, notRevoked, _⟩
    rcases isRevoked with ⟨row, rowFound, revokedAt⟩
    rcases Option.isSome_iff_exists.mp revokedAt with ⟨instant, isInstant⟩
    have follows := history.visits_after Follows.refl
      (fun _ _ _ => Follows.trans) (fun _ made => made.follows) state visited
    rcases follows.sessions sessionId row rowFound with
      ⟨kept, keptFound, _, stays⟩
    cases found.symm.trans keptFound
    cases notRevoked.symm.trans (stays instant isInstant)
  constructor
  · intro commit member now issued issues same
    have live := (history.made_of_mem member).live issues
    rw [same] at live
    exact notLive commit.before (Or.inr ⟨commit, member, rfl⟩) now live
  · intro now token identity returned same
    rcases returns_authenticateAccess returned with ⟨state, visited, live⟩
    rw [same] at live
    exact notLive state visited now live

private theorem expires_of_history
    (history : History (Made service) first commits last) {state : AuthDb}
    (visited : Committed commits last state) {session : SessionRow}
    (member : session ∈ state.sessions.rows) :
    Expires service session commits last := by
  have timely : ∀ other, Committed commits last other → ∀ now,
      SessionLive session.id now other → now < session.expiresAt := by
    rintro other otherVisited now ⟨row, found, _, live⟩
    rw [Follows.sameSessionExpiry
      (follows_of_history history visited otherVisited)
      (Table.lookup_of_mem member) found]
    exact live
  constructor
  · intro commit isCommit now issued issues same
    have live := (history.made_of_mem isCommit).live issues
    rw [same] at live
    exact timely commit.before (Or.inr ⟨commit, isCommit, rfl⟩) now live
  · intro now token identity returned same
    rcases returns_authenticateAccess returned with ⟨other, seen, live⟩
    rw [same] at live
    exact timely other seen now live

end Final

/-- In every interleaving of logins, refreshes and logouts, revocation and
expiry are final. -/
theorem sessionsFinal_of_reachable (service : AuthService)
    {system : System (rowClient service) (rowLocking service.lower)}
    (reachable : System.Reachable NoSessions system) :
    SessionsFinal service system.commits system.committed := by
  have invariant := reachable.history (fun _ => tokensExpire_of_noSessions)
    (keeps_made service)
  rcases invariant with ⟨lastExpire, first, _, history⟩
  constructor
  · intro newer commit older split sessionId ends
    rw [split] at history
    have made : Made service commit := history.made_of_mem
      (List.mem_append_right newer List.mem_cons_self)
    exact over_of_revoked history.after_commit (made.revoked ends)
  · intro state visited session member
    exact expires_of_history history visited member
  · intro left right leftVisited rightVisited row leftMember other rightMember
      sameId
    have rightFound := Table.lookup_of_mem rightMember
    rw [← sameId] at rightFound
    exact Follows.sameSessionExpiry
      (follows_of_history history leftVisited rightVisited)
      (Table.lookup_of_mem leftMember) rightFound
  · intro left right leftVisited rightVisited row leftMember other rightMember
      sameId
    have rightFound := Table.lookup_of_mem rightMember
    rw [← sameId] at rightFound
    exact Follows.sameTokenExpiry
      (follows_of_history history leftVisited rightVisited)
      (Table.lookup_of_mem leftMember) rightFound
  · intro state visited token member
    have expire : TokensExpire state := by
      rcases visited with isLast | ⟨commit, isCommit, isBefore⟩
      · rw [isLast]
        exact lastExpire
      · rw [← isBefore]
        exact (history.made_of_mem isCommit).expire
    exact expire token.id token (Table.lookup_of_mem member)

namespace Sample

/-- A login, a logout, and a refresh with the token of the login. -/
def loggedOut : List ConcurrentCall :=
  [.login (context 10 1) ⟨"acme", "OPS@acme.test", "secret"⟩,
    .logout (context 11 2) firstCookie fun _ => true,
    .refresh (context 12 3) firstCookie fun _ => true]

/-- Their commits and the state they leave. -/
def history : List (Commit (rowClient exactService)) × AuthDb :=
  System.commitEach (rowClient exactService) loggedOut [] start

end Sample

theorem sessionsFinal_loggedOut :
    Sample.history.1.length = 3 ∧
      (Sample.history.2.sessions.lookup ⟨10⟩).map SessionRow.revokedAt =
        some (some 1000000) ∧
      SessionsFinal Sample.exactService Sample.history.1 Sample.history.2 := by
  have begun : System.Reachable NoSessions
      (System.idle Sample.start [] : System (rowClient Sample.exactService)
        (rowLocking Sample.exactService.lower)) :=
    .initial ⟨rfl, rfl⟩
  refine ⟨by decide, by decide, ?_⟩
  exact sessionsFinal_of_reachable Sample.exactService
    (begun.commitEach Sample.loggedOut)

end NetworkManager.Backend
