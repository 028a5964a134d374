import NetworkManager.Backend.TokenChains

/-!
# Rotation of refresh tokens

Every login, refresh and logout keeps the chains of refresh tokens, under any
faults.  Once a family is revoked it stays so, and with it everything that could
be presented in its name is refused.
-/

namespace NetworkManager.Backend

open NetworkManager.Foundation
open NetworkManager.Security.Token
open NetworkManager.Transaction

/-- A state that a login, a refresh or a logout commits. -/
inductive AuthStep (db : AuthDb) : AuthDb → Prop
  | unchanged : AuthStep db db
  | revoked (familyId sessionId : Uuid) (now : Timestamp) :
      AuthStep db (revoked familyId sessionId now db)
  | started {session : SessionRow} {token : RefreshTokenRow} (userId : Uuid)
      (now : Timestamp) :
      db.sessions.lookup session.id = none → Insertable db token →
      token.generation = 0 → token.consumedAt = none →
      token.sessionId = session.id →
      session.refreshTokenHash = token.tokenHash →
      AuthStep db
        (applyWrite (.lastLogin userId now)
          (applyWrite (.refreshToken token) (applyWrite (.session session) db)))
  | rotated {token next : RefreshTokenRow} (tokenPrefix : String)
      (now : Timestamp) :
      Chains.Next db token next → token.revokedAt = none →
      AuthStep db
        (applyWrite (.sessionToken token.sessionId next.tokenHash tokenPrefix now)
          (applyWrite (.consumed token.id now next.id)
            (applyWrite (.refreshToken next) db)))

theorem AuthStep.chains {db reached : AuthDb} (step : AuthStep db reached)
    (chains : Chains db) : Chains reached := by
  cases step with
  | unchanged => exact chains
  | revoked familyId sessionId now => exact chains.revoked
  | started userId now freshSession insertable first unconsumed sameSession
      sameHash =>
      exact chains.start insertable.freshId insertable.freshHash
        insertable.freshGeneration freshSession first unconsumed sameSession
        sameHash rfl rfl
  | rotated tokenPrefix now isNext _ => exact chains.rotated isNext

section Operations

variable {service : AuthService} {context : CallContext} {db : AuthDb}

private theorem commitsOnly_revokeFamily {α : Type} {familyId sessionId : Uuid}
    {now : Timestamp} {outcome : Except AuthError α} :
    (revokeFamily service familyId sessionId now >>= fun _ =>
      commit service >>= fun _ => Program.done outcome).CommitsOnly
        (AuthStep db) db := by
  unfold revokeFamily
  rw [bind_assoc]
  refine Program.CommitsOnly.statement_bind fun _ writes answered => ?_
  cases answered
  refine Program.CommitsOnly.statement_bind fun _ writes answered => ?_
  cases answered
  exact .commit (.revoked familyId sessionId now) (.done _ _)

private theorem commitsOnly_login (request : LoginRequest) :
    (login service context request).CommitsOnly (AuthStep db) db := by
  unfold login
  refine Program.CommitsOnly.check_bind fun _ => ?_
  refine Program.CommitsOnly.statement_bind fun user writes answered => ?_
  cases answered
  cases found : execSelectLoginUser service.lower request.organizationSlug
      request.email db with
  | none => exact .done _ _
  | some user =>
      refine Program.CommitsOnly.check_bind fun _ => ?_
      refine Program.CommitsOnly.ofExcept_bind fun refresh _ => ?_
      refine Program.CommitsOnly.ofExcept_bind fun csrf _ => ?_
      refine Program.CommitsOnly.statement_bind fun _ _ inserted => ?_
      obtain ⟨rfl, freshSession⟩ := execInsertSession_eq_ok inserted
      refine Program.CommitsOnly.statement_bind fun _ _ inserted => ?_
      obtain ⟨rfl, insertable⟩ := execInsertRefreshToken_eq_ok inserted
      refine Program.CommitsOnly.statement_bind fun _ _ answered => ?_
      cases answered
      refine Program.CommitsOnly.commitNow_bind ?_ ?_
      · exact .started user.userId context.now freshSession
          ⟨insertable.freshId, insertable.freshHash,
            insertable.freshGeneration, insertable.nonnegative⟩
          rfl rfl rfl rfl
      · refine Program.CommitFree.commitsOnly ?_ _
        refine (Program.commitFree_statement _ _).bind fun permissions => ?_
        exact (Program.commitFree_ofExcept _).bind fun _ => .done _

theorem wrappingAdd_one {generation : Int}
    (range : 0 ≤ generation ∧ generation < 2 ^ 63)
    (nonnegative : 0 ≤ wrappingAdd generation 1) :
    wrappingAdd generation 1 = generation + 1 ∧
      wrappingAdd generation 1 < 2 ^ 63 := by
  unfold wrappingAdd at nonnegative ⊢
  rw [Int.bmod_def] at nonnegative ⊢
  split at nonnegative <;> omega

private theorem commitsOnly_refresh (chains : Chains db) (presented : Bytes) :
    (refresh service context presented).CommitsOnly (AuthStep db) db := by
  unfold refresh
  refine Program.CommitsOnly.ofExcept_bind fun nextRefresh _ => ?_
  refine Program.CommitsOnly.ofExcept_bind fun csrf _ => ?_
  refine Program.CommitsOnly.statement_bind fun _ _ answered => ?_
  cases answered
  cases found : execSelectRefreshToken
      (hashOpaqueToken service.library presented) db with
  | none => exact .done _ _
  | some pair =>
      obtain ⟨token, session⟩ := pair
      obtain ⟨member, _, sessionFound⟩ := execSelectRefreshToken_eq_some found
      simp only
      split
      · exact commitsOnly_revokeFamily
      · rename_i usable
        split
        · exact commitsOnly_revokeFamily
        · refine Program.CommitsOnly.statement_bind fun _ _ inserted => ?_
          obtain ⟨rfl, insertable⟩ := execInsertRefreshToken_eq_ok inserted
          refine Program.CommitsOnly.statement_bind fun _ _ consumed => ?_
          obtain rfl := execConsumeRefreshToken_eq_ok consumed
          refine Program.CommitsOnly.statement_bind fun _ _ answered => ?_
          cases answered
          simp only [Bool.or_eq_true, not_or, Bool.not_eq_true,
            Option.isSome_eq_false_iff, Option.isNone_iff_eq_none] at usable
          obtain ⟨after, bounded⟩ := wrappingAdd_one
            (chains.generationRange token member) insertable.nonnegative
          refine Program.CommitsOnly.commitNow_bind ?_ ?_
          · have isNext : Chains.Next db token _ :=
              { member
                unconsumed := usable.1.1
                freshId := insertable.freshId
                freshHash := insertable.freshHash
                familyId := rfl
                sessionId := rfl
                generation := after
                bounded
                nextUnconsumed := rfl }
            exact .rotated _ context.now isNext usable.1.2
          · refine Program.CommitFree.commitsOnly ?_ _
            refine (Program.commitFree_statement _ _).bind fun permissions => ?_
            exact (Program.commitFree_ofExcept _).bind fun _ => .done _

private theorem commitsOnly_logout (presented : Bytes) :
    (logout service context presented).CommitsOnly (AuthStep db) db := by
  unfold logout
  refine Program.CommitsOnly.statement_bind fun row _ answered => ?_
  cases answered
  cases found : db.refreshTokens.rows.find? fun token =>
      token.tokenHash = hashOpaqueToken service.library presented with
  | none => exact .commit .unchanged (.done _ _)
  | some token => exact commitsOnly_revokeFamily

end Operations

inductive AuthCall where
  | login (context : CallContext) (request : LoginRequest)
  | refresh (context : CallContext) (presented : Bytes)
  | logout (context : CallContext) (presented : Bytes)

/-- The calls of the service that change the database. -/
def authClient (service : AuthService) :
    Client (authSql service.lower) AuthError where
  Call := AuthCall
  Result
    | .login .. => IssuedSession
    | .refresh .. => IssuedSession
    | .logout .. => Unit
  program
    | .login context request => login service context request
    | .refresh context presented => refresh service context presented
    | .logout context presented => logout service context presented

/-- Any users and roles, and no session yet. -/
def NoSessions (db : AuthDb) : Prop :=
  db.sessions = .empty SessionRow.id ∧
    db.refreshTokens = .empty RefreshTokenRow.id

theorem chains_of_noSessions {db : AuthDb} (none : NoSessions db) :
    Chains db := by
  have noToken : ∀ token, token ∉ db.refreshTokens.rows := by
    rw [none.2]
    simp
  constructor <;> intro token member <;> exact absurd member (noToken token)

private theorem commitsOnly_authClient {service : AuthService} {db : AuthDb}
    (chains : Chains db) (call : AuthCall) :
    ((authClient service).program call).CommitsOnly (AuthStep db) db := by
  cases call with
  | login context request => exact commitsOnly_login request
  | refresh context presented => exact commitsOnly_refresh chains presented
  | logout context presented => exact commitsOnly_logout presented

private theorem Chains.of_reachable
    {service : AuthService} {initial : AuthDb → Prop}
    (start : ∀ db, initial db → Chains db) {db : AuthDb}
    (reachable : (authClient service).Reachable initial db) : Chains db := by
  have kept : ∀ call state, Chains state →
      ((authClient service).program call).CommitsOnly Chains state :=
    fun call state chains =>
      (commitsOnly_authClient chains call).mono fun _ step =>
        step.chains chains
  exact reachable.commitsOnly start kept

/-! ## Dead families -/

/-- Everything of a family and its session is revoked. -/
structure Dead (familyId sessionId : Uuid) (db : AuthDb) : Prop where
  tokens : ∀ token ∈ db.refreshTokens.rows, token.familyId = familyId →
    token.revokedAt.isSome
  family : ∃ token ∈ db.refreshTokens.rows, token.familyId = familyId ∧
    token.sessionId = sessionId
  session : ∀ session, db.sessions.lookup sessionId = some session →
    session.revokedAt.isSome

theorem isSome_revokedAt_revokeToken {token : RefreshTokenRow}
    {familyId : Uuid} {now : Timestamp}
    (either : token.familyId = familyId ∨ token.revokedAt.isSome) :
    (revokeToken familyId now token).revokedAt.isSome := by
  unfold revokeToken
  by_cases inFamily : token.familyId = familyId
  · rw [if_pos inFamily]
    cases token.revokedAt <;> rfl
  · rw [if_neg inFamily]
    exact either.resolve_left inFamily

theorem isSome_revokedAt_revokeRow {session : SessionRow} {sessionId : Uuid}
    {now : Timestamp}
    (either : session.id = sessionId ∨ session.revokedAt.isSome) :
    (revokeRow sessionId now session).revokedAt.isSome := by
  unfold revokeRow
  by_cases same : session.id = sessionId
  · rw [if_pos same]
    cases session.revokedAt <;> rfl
  · rw [if_neg same]
    exact either.resolve_left same

/-- Revoking the family of a token kills it. -/
theorem dead_revoked {db : AuthDb} {token : RefreshTokenRow} {now : Timestamp}
    (member : token ∈ db.refreshTokens.rows) :
    Dead token.familyId token.sessionId
      (revoked token.familyId token.sessionId now db) where
  tokens := by
    intro changed changedMember inFamily
    obtain ⟨old, oldMember, rfl⟩ := mem_revoked.mp changedMember
    rw [(sameToken_revokeToken token.familyId now old).familyId] at inFamily
    exact isSome_revokedAt_revokeToken (Or.inl inFamily)
  family := by
    have same := sameToken_revokeToken token.familyId now token
    exact ⟨_, mem_revoked.mpr ⟨token, member, rfl⟩, same.familyId,
      same.sessionId⟩
  session := by
    intro session found
    rw [lookup_sessions_revoked, Option.map_eq_some_iff] at found
    obtain ⟨old, oldFound, rfl⟩ := found
    exact isSome_revokedAt_revokeRow (Or.inl (Table.key_of_lookup oldFound))

section Steps

variable {db : AuthDb} {familyId sessionId : Uuid} {now : Timestamp}

/-- Revoking any family leaves a dead one dead. -/
private theorem Dead.revoked (dead : Dead familyId sessionId db)
    (otherFamily otherSession : Uuid) :
    Dead familyId sessionId (revoked otherFamily otherSession now db) where
  tokens := by
    intro changed changedMember changedFamily
    obtain ⟨old, oldMember, rfl⟩ := mem_revoked.mp changedMember
    rw [(sameToken_revokeToken otherFamily now old).familyId] at changedFamily
    exact isSome_revokedAt_revokeToken
      (Or.inr (dead.tokens old oldMember changedFamily))
  family := by
    obtain ⟨member, isMember, inFamily, ofSession⟩ := dead.family
    have same := sameToken_revokeToken otherFamily now member
    exact ⟨_, mem_revoked.mpr ⟨member, isMember, rfl⟩,
      same.familyId.trans inFamily, same.sessionId.trans ofSession⟩
  session := by
    intro session found
    rw [lookup_sessions_revoked, Option.map_eq_some_iff] at found
    obtain ⟨old, oldFound, rfl⟩ := found
    exact isSome_revokedAt_revokeRow (Or.inr (dead.session old oldFound))

/-- A new family in a new session leaves a dead one dead. -/
private theorem Dead.started {session : SessionRow} {token : RefreshTokenRow}
    {userId : Uuid} (dead : Dead familyId sessionId db) (chains : Chains db)
    (freshSession : db.sessions.lookup session.id = none)
    (insertable : Insertable db token) (first : token.generation = 0) :
    Dead familyId sessionId
      (applyWrite (.lastLogin userId now)
        (applyWrite (.refreshToken token)
          (applyWrite (.session session) db))) := by
  obtain ⟨member, isMember, inFamily, ofSession⟩ := dead.family
  have members : ∀ row, row ∈ (db.refreshTokens.put token).rows ↔
      row = token ∨ row ∈ db.refreshTokens.rows := by
    intro row
    rw [Table.rows_put_of_lookup_none insertable.freshId, List.mem_append,
      List.mem_singleton, or_comm]
  constructor
  case tokens =>
    intro row rowMember rowFamily
    rcases (members row).mp rowMember with rfl | old
    · obtain ⟨oldest, oldestMember, oldestFamily, oldestFirst⟩ :=
        chains.exists_first isMember
      have taken := insertable.freshGeneration oldest oldestMember
      exact absurd ⟨oldestFamily.trans (inFamily.trans rowFamily.symm),
        oldestFirst.trans first.symm⟩ taken
    · exact dead.tokens row old rowFamily
  case family =>
    exact ⟨member, (members member).mpr (Or.inr isMember), inFamily,
      ofSession⟩
  case session =>
    intro stored found
    have different : session.id ≠ sessionId := by
      intro same
      have present := chains.sessionExists member isMember
      rw [ofSession, ← same, freshSession] at present
      cases present
    have kept : (db.sessions.put session).lookup sessionId =
        db.sessions.lookup sessionId :=
      Table.lookup_put_of_ne different
    exact dead.session stored (kept.symm.trans found)

/-- The rotation of a token that is not revoked is in another family. -/
private theorem Dead.rotated {token next : RefreshTokenRow}
    {tokenPrefix : String} (dead : Dead familyId sessionId db)
    (isNext : Chains.Next db token next) (notRevoked : token.revokedAt = none) :
    Dead familyId sessionId
      (applyWrite (.sessionToken token.sessionId next.tokenHash tokenPrefix now)
        (applyWrite (.consumed token.id now next.id)
          (applyWrite (.refreshToken next) db))) where
  tokens := by
    have otherFamily : token.familyId ≠ familyId := by
      intro same
      have revokedAt := dead.tokens token isNext.member same
      rw [notRevoked] at revokedAt
      cases revokedAt
    intro changed changedMember changedFamily
    rcases (Chains.mem_rotated isNext).mp changedMember with
      rfl | ⟨old, oldMember, rfl⟩
    · exact absurd (isNext.familyId.symm.trans changedFamily) otherFamily
    · rw [familyId_consume] at changedFamily
      have revokedAt := dead.tokens old oldMember changedFamily
      unfold consume
      split <;> exact revokedAt
  family := by
    obtain ⟨member, isMember, inFamily, ofSession⟩ := dead.family
    refine ⟨consume token.id now next.id member,
      (Chains.mem_rotated isNext).mpr (Or.inr ⟨member, isMember, rfl⟩), ?_, ?_⟩
    · rw [familyId_consume, inFamily]
    · rw [sessionId_consume, ofSession]
  session := by
    intro session found
    simp only [applyWrite, Table.lookup_update,
      Option.map_eq_some_iff] at found
    obtain ⟨old, oldFound, rfl⟩ := found
    have revokedAt := dead.session old oldFound
    split <;> exact revokedAt

end Steps

/-- A dead family stays dead. -/
theorem AuthStep.dead {db reached : AuthDb} {familyId sessionId : Uuid}
    (step : AuthStep db reached) (chains : Chains db)
    (dead : Dead familyId sessionId db) : Dead familyId sessionId reached := by
  cases step with
  | unchanged => exact dead
  | revoked otherFamily otherSession now =>
      exact dead.revoked otherFamily otherSession
  | started userId now freshSession insertable first _ _ _ =>
      exact dead.started chains freshSession insertable first
  | rotated tokenPrefix now isNext notRevoked =>
      exact dead.rotated isNext notRevoked

private theorem Dead.of_reachable {service : AuthService} {start db : AuthDb}
    {familyId sessionId : Uuid} (chains : Chains start)
    (dead : Dead familyId sessionId start)
    (reachable : (authClient service).Reachable (· = start) db) :
    Chains db ∧ Dead familyId sessionId db := by
  have kept : ∀ call state, Chains state ∧ Dead familyId sessionId state →
      ((authClient service).program call).CommitsOnly
        (fun reached => Chains reached ∧ Dead familyId sessionId reached)
        state :=
    fun call state both =>
      (commitsOnly_authClient both.1 call).mono fun _ step =>
        ⟨step.chains both.1, step.dead both.1 both.2⟩
  exact reachable.commitsOnly (fun _ same => same ▸ ⟨chains, dead⟩) kept

section Answers

variable {service : AuthService} {context : CallContext} {db : AuthDb}

theorem issueOpaqueToken_ok (library : TokenLibrary)
    (namePrefix : String) (known : namePrefix ∈ [refreshPrefix, csrfPrefix])
    (random : FixedBytes 32) :
    ∃ issued, issueOpaqueToken library namePrefix random = .ok issued := by
  refine ⟨_, if_neg ?_⟩
  rcases List.mem_pair.mp known with rfl | rfl <;> decide

/-- A token that is consumed or revoked, or whose session is revoked, is taken
for a reuse. -/
theorem call_refresh_reused {presented : Bytes} {token : RefreshTokenRow}
    {session : SessionRow}
    (found : execSelectRefreshToken
      (hashOpaqueToken service.library presented) db = some (token, session))
    (used : (token.consumedAt.isSome || token.revokedAt.isSome ||
      session.revokedAt.isSome) = true) :
    (refresh service context presented).call db =
      (.error .refreshReuseDetected,
        revoked token.familyId token.sessionId context.now db) := by
  obtain ⟨nextRefresh, refreshIssued⟩ :=
    issueOpaqueToken_ok service.library refreshPrefix (by simp)
      context.refreshRandom
  obtain ⟨csrf, csrfIssued⟩ :=
    issueOpaqueToken_ok service.library csrfPrefix (by simp)
      context.csrfRandom
  have selected :
      (authSql service.lower).exec (.selectRefreshToken
        (hashOpaqueToken service.library presented)) db =
        .ok (some (token, session), []) := by
    simp [authSql, found]
  have ended : (refresh service context presented).eval (.fresh db) =
      (.error .refreshReuseDetected,
        .fresh (revoked token.familyId token.sessionId context.now db)) := by
    unfold refresh
    simp only [available, refreshIssued, csrfIssued, Except.mapError,
      Program.ofExcept, Program.done_ok_bind]
    rw [query, Program.eval_statement_bind_ok selected]
    simp only [used, if_true]
    rfl
  exact Program.call_of_eval ended

/-- A refresh that is accepted was made with the unconsumed token of the
session. -/
theorem call_refresh_ok {presented : Bytes} {issued : IssuedSession}
    {reached : AuthDb}
    (accepted : (refresh service context presented).call db =
      (.ok issued, reached)) :
    ∃ token ∈ db.refreshTokens.rows,
      token.tokenHash = hashOpaqueToken service.library presented ∧
        token.consumedAt = none ∧ token.revokedAt = none ∧
          token.sessionId = issued.identity.sessionId := by
  obtain ⟨final, ended, rfl⟩ := Program.call_eq_ok accepted
  obtain ⟨nextRefresh, _, ran, ended⟩ := Program.eval_bind_eq_ok ended
  obtain ⟨_, rfl⟩ := Program.eval_ofExcept_eq_ok ran
  obtain ⟨csrf, _, ran, ended⟩ := Program.eval_bind_eq_ok ended
  obtain ⟨_, rfl⟩ := Program.eval_ofExcept_eq_ok ran
  obtain ⟨row, _, ran, ended⟩ := Program.eval_bind_eq_ok ended
  obtain ⟨_, selected, rfl⟩ := Program.eval_statement_eq_ok ran
  have found : execSelectRefreshToken
      (hashOpaqueToken service.library presented) db = row :=
    congrArg Prod.fst (Except.ok.inj selected)
  cases row with
  | none =>
      have refused := congrArg Prod.fst ended
      cases refused
  | some pair =>
      obtain ⟨token, session⟩ := pair
      obtain ⟨member, sameHash, _⟩ := execSelectRefreshToken_eq_some found
      simp only at ended
      split at ended
      · obtain ⟨_, _, _, ended⟩ := Program.eval_bind_eq_ok ended
        obtain ⟨_, _, _, ended⟩ := Program.eval_bind_eq_ok ended
        cases ended
      · rename_i usable
        simp only [Bool.or_eq_true, not_or, Bool.not_eq_true,
          Option.isSome_eq_false_iff, Option.isNone_iff_eq_none] at usable
        split at ended
        · obtain ⟨_, _, _, ended⟩ := Program.eval_bind_eq_ok ended
          obtain ⟨_, _, _, ended⟩ := Program.eval_bind_eq_ok ended
          cases ended
        · obtain ⟨_, _, _, ended⟩ := Program.eval_bind_eq_ok ended
          obtain ⟨_, _, _, ended⟩ := Program.eval_bind_eq_ok ended
          obtain ⟨_, _, _, ended⟩ := Program.eval_bind_eq_ok ended
          obtain ⟨_, _, _, ended⟩ := Program.eval_bind_eq_ok ended
          obtain ⟨_, _, _, ended⟩ := Program.eval_bind_eq_ok ended
          obtain ⟨_, _, _, ended⟩ := Program.eval_bind_eq_ok ended
          obtain ⟨rfl, _⟩ := Program.eval_pure_eq_ok ended
          exact ⟨token, member, sameHash, usable.1.1, usable.1.2, rfl⟩

/-- An access token is accepted only for a session that is not revoked. -/
theorem call_authenticateAccess_ok {now : Timestamp} {token : String}
    {identity : SessionIdentity} {reached : AuthDb}
    (accepted : (authenticateAccess service now token).call db =
      (.ok identity, reached)) :
    ∃ session, db.sessions.lookup identity.sessionId = some session ∧
      session.revokedAt = none := by
  obtain ⟨final, ended, rfl⟩ := Program.call_eq_ok accepted
  obtain ⟨claims, _, ran, ended⟩ := Program.eval_bind_eq_ok ended
  obtain ⟨_, rfl⟩ := Program.eval_ofExcept_eq_ok ran
  obtain ⟨row, _, ran, ended⟩ := Program.eval_bind_eq_ok ended
  obtain ⟨_, selected, rfl⟩ := Program.eval_statement_eq_ok ran
  have found : db.sessions.lookup claims.sid = row :=
    congrArg Prod.fst (Except.ok.inj selected)
  cases row with
  | none =>
      have refused := congrArg Prod.fst ended
      cases refused
  | some session =>
      simp only at ended
      split at ended
      · have refused := congrArg Prod.fst ended
        cases refused
      · rename_i allowed
        simp only [not_or, Bool.not_eq_true, Option.isSome_eq_false_iff,
          Option.isNone_iff_eq_none] at allowed
        obtain ⟨_, _, _, ended⟩ := Program.eval_bind_eq_ok ended
        obtain ⟨rfl, _⟩ := Program.eval_pure_eq_ok ended
        exact ⟨session, found, allowed.2.2.1⟩

end Answers

/-! ## The guarantee -/

/-- The tokens of a family have the generations from zero to a last one, each
once.  All but the last are consumed and replaced by the next one; the last is
unconsumed, and its hash is that of the session. -/
def FamilyIntact (db : AuthDb) (familyId : Uuid) : Prop :=
  ∃ (session : SessionRow) (lastGeneration : Nat),
    session ∈ db.sessions.rows ∧
    (∀ generation : Int,
      (∃! token, token ∈ db.refreshTokens.rows ∧ token.familyId = familyId ∧
        token.generation = generation) ↔
      0 ≤ generation ∧ generation ≤ lastGeneration) ∧
    ∀ token ∈ db.refreshTokens.rows, token.familyId = familyId →
      token.sessionId = session.id ∧ 0 ≤ token.generation ∧
      token.generation ≤ lastGeneration ∧
      (token.generation < lastGeneration → token.consumedAt.isSome ∧
        ∃ next ∈ db.refreshTokens.rows, next.familyId = familyId ∧
          next.generation = token.generation + 1 ∧
            token.replacedById = some next.id) ∧
      (token.generation = lastGeneration → token.consumedAt = none ∧
        session.refreshTokenHash = token.tokenHash)

private theorem Chains.exists_last {db : AuthDb} (chains : Chains db)
    {token : RefreshTokenRow} (member : token ∈ db.refreshTokens.rows) :
    ∃ last ∈ db.refreshTokens.rows, last.familyId = token.familyId ∧
      last.consumedAt = none := by
  -- Generations are bounded, so following the successors comes to an end.
  have climb : ∀ (room : Nat) (row : RefreshTokenRow),
      row ∈ db.refreshTokens.rows → row.familyId = token.familyId →
      2 ^ 63 - row.generation ≤ room →
      ∃ last ∈ db.refreshTokens.rows, last.familyId = token.familyId ∧
        last.consumedAt = none := by
    intro room
    induction room with
    | zero =>
        intro row rowMember _ noRoom
        have range := chains.generationRange row rowMember
        omega
    | succ room inductionHypothesis =>
        intro row rowMember sameFamily enough
        cases consumedAt : row.consumedAt with
        | none => exact ⟨row, rowMember, sameFamily, consumedAt⟩
        | some instant =>
            obtain ⟨next, nextMember, nextFamily, after, _⟩ :=
              chains.successor row rowMember
                (Option.isSome_of_eq_some consumedAt)
            exact inductionHypothesis next nextMember
              (nextFamily.trans sameFamily) (by omega)
  have range := chains.generationRange token member
  exact climb (2 ^ 63 - token.generation).toNat token member rfl (by omega)

private theorem Chains.exists_generation {db : AuthDb} (chains : Chains db)
    {token : RefreshTokenRow} (member : token ∈ db.refreshTokens.rows)
    {generation : Int} (nonnegative : 0 ≤ generation)
    (atMost : generation ≤ token.generation) :
    ∃ row ∈ db.refreshTokens.rows, row.familyId = token.familyId ∧
      row.generation = generation := by
  have descend : ∀ (distance : Nat) (row : RefreshTokenRow),
      row ∈ db.refreshTokens.rows → row.familyId = token.familyId →
      row.generation = generation + distance →
      ∃ found ∈ db.refreshTokens.rows, found.familyId = token.familyId ∧
        found.generation = generation := by
    intro distance
    induction distance with
    | zero =>
        intro row rowMember sameFamily here
        exact ⟨row, rowMember, sameFamily, by omega⟩
    | succ distance inductionHypothesis =>
        intro row rowMember sameFamily above
        obtain ⟨previous, previousMember, previousFamily, before⟩ :=
          chains.predecessor row rowMember (by omega)
        exact inductionHypothesis previous previousMember
          (previousFamily.trans sameFamily) (by omega)
  exact descend (token.generation - generation).toNat token member rfl
    (by omega)

private theorem Chains.familyIntact {db : AuthDb} (chains : Chains db)
    {token : RefreshTokenRow} (member : token ∈ db.refreshTokens.rows) :
    FamilyIntact db token.familyId := by
  obtain ⟨last, lastMember, lastFamily, unconsumed⟩ :=
    chains.exists_last member
  obtain ⟨session, sessionFound⟩ := Option.isSome_iff_exists.mp
    (chains.sessionExists last lastMember)
  have range := chains.generationRange last lastMember
  have lastIs : (last.generation.toNat : Int) = last.generation := by omega
  have highest := chains.last last lastMember unconsumed
  refine ⟨session, last.generation.toNat, Table.mem_of_lookup sessionFound,
    fun generation => ⟨?_, ?_⟩, fun row rowMember sameFamily => ?_⟩
  · rintro ⟨row, ⟨rowMember, sameFamily, rfl⟩, _⟩
    have rowRange := chains.generationRange row rowMember
    have atMost := highest row rowMember (sameFamily.trans lastFamily.symm)
    omega
  · rintro ⟨nonnegative, atMost⟩
    obtain ⟨row, rowMember, rowFamily, here⟩ :=
      chains.exists_generation lastMember nonnegative (by omega)
    refine ⟨row, ⟨rowMember, rowFamily.trans lastFamily, here⟩, ?_⟩
    rintro other ⟨otherMember, otherFamily, otherHere⟩
    exact chains.generationUnique other otherMember row rowMember
      (otherFamily.trans (rowFamily.trans lastFamily).symm)
      (otherHere.trans here.symm)
  · have rowRange := chains.generationRange row rowMember
    have inFamily := sameFamily.trans lastFamily.symm
    have atMost := highest row rowMember inFamily
    refine ⟨?_, rowRange.1, by omega, fun below => ?_, fun isLast => ?_⟩
    · have sameSession :=
        (chains.familySession row rowMember last lastMember).mp inFamily
      rw [sameSession, Table.key_of_lookup sessionFound]
    · have consumed : row.consumedAt.isSome := by
        by_contra notConsumed
        have rowUnconsumed : row.consumedAt = none := by simpa using notConsumed
        have same := chains.eq_of_unconsumed rowMember lastMember
          rowUnconsumed unconsumed inFamily
        rw [same] at below
        omega
      obtain ⟨next, nextMember, nextFamily, after, replaced⟩ :=
        chains.successor row rowMember consumed
      exact ⟨consumed, next, nextMember, nextFamily.trans sameFamily, after,
        replaced⟩
    · have same := chains.generationUnique row rowMember last lastMember
        inFamily (by omega)
      rw [same]
      exact ⟨unconsumed,
        chains.current last lastMember unconsumed session sessionFound⟩

/-- Nothing is accepted any more in the name of a family and its session. -/
structure Rejected (service : AuthService) (familyId sessionId : Uuid)
    (db : AuthDb) : Prop where
  refreshes : ∀ (context : CallContext) (presented : Bytes)
    (plan : List (Option SqlError)) (issued : IssuedSession),
    ∀ token ∈ db.refreshTokens.rows, token.familyId = familyId →
      token.tokenHash = hashOpaqueToken service.library presented →
        ((refresh service context presented).callFaulty plan db).1 ≠
          .ok issued
  accessTokens : ∀ (now : Timestamp) (token : String)
    (plan : List (Option SqlError)) (identity : SessionIdentity),
    ((authenticateAccess service now token).callFaulty plan db).1 =
        .ok identity →
      identity.sessionId ≠ sessionId

private theorem Dead.rejected
    {service : AuthService} {familyId sessionId : Uuid}
    {db : AuthDb} (chains : Chains db) (dead : Dead familyId sessionId db) :
    Rejected service familyId sessionId db where
  refreshes := by
    intro context presented plan issued token member inFamily sameHash accepted
    have called := Program.callFaulty_ok (Prod.ext accepted rfl)
    obtain ⟨used, usedMember, usedHash, _, notRevoked, _⟩ :=
      call_refresh_ok called
    have same := chains.hashUnique used usedMember token member
      (usedHash.trans sameHash.symm)
    have revokedAt := dead.tokens token member inFamily
    rw [← same, notRevoked] at revokedAt
    cases revokedAt
  accessTokens := by
    intro now token plan identity accepted sameSession
    have called := Program.callFaulty_ok (Prod.ext accepted rfl)
    obtain ⟨session, found, notRevoked⟩ := call_authenticateAccess_ok called
    rw [sameSession] at found
    have revokedAt := dead.session session found
    rw [notRevoked] at revokedAt
    cases revokedAt

/-- What rotation guarantees in a state. -/
structure RotationGuarantee (service : AuthService) (db : AuthDb) : Prop where
  intact : ∀ token ∈ db.refreshTokens.rows, FamilyIntact db token.familyId
  /-- Two tokens that are accepted for one session are the same. -/
  oneAccepted : ∀ (leftContext rightContext : CallContext)
    (leftPresented rightPresented : Bytes) (left right : IssuedSession),
    ((refresh service leftContext leftPresented).call db).1 = .ok left →
    ((refresh service rightContext rightPresented).call db).1 = .ok right →
    left.identity.sessionId = right.identity.sessionId →
    (hashOpaqueToken service.library leftPresented =
        hashOpaqueToken service.library rightPresented →
      leftPresented = rightPresented) →
    leftPresented = rightPresented
  /-- A consumed or revoked token is taken for a reuse, and from then on its
  family and its session are refused. -/
  reuse : ∀ (context : CallContext) (presented : Bytes),
    ∀ token ∈ db.refreshTokens.rows,
      token.tokenHash = hashOpaqueToken service.library presented →
      (token.consumedAt.isSome ∨ token.revokedAt.isSome) →
      ((refresh service context presented).call db).1 =
          .error .refreshReuseDetected ∧
        ∀ later, (authClient service).Reachable
            (· = ((refresh service context presented).call db).2) later →
          Rejected service token.familyId token.sessionId later

theorem Chains.find_eq {db : AuthDb} (chains : Chains db)
    {token : RefreshTokenRow} {hash : FixedBytes 32}
    (member : token ∈ db.refreshTokens.rows) (sameHash : token.tokenHash = hash) :
    ∃ session, execSelectRefreshToken hash db = some (token, session) := by
  obtain ⟨session, sessionFound⟩ := Option.isSome_iff_exists.mp
    (chains.sessionExists token member)
  have found : db.refreshTokens.rows.find?
      (fun row => row.tokenHash = hash) = some token := by
    cases searched : db.refreshTokens.rows.find?
        fun row => row.tokenHash = hash with
    | none =>
        have absent := List.find?_eq_none.mp searched token member
        simp [sameHash] at absent
    | some row =>
        have rowHash : row.tokenHash = hash := by
          simpa using List.find?_some searched
        rw [chains.hashUnique row (List.mem_of_find?_eq_some searched) token
          member (rowHash.trans sameHash.symm)]
  exact ⟨session, by simp [execSelectRefreshToken, found, sessionFound]⟩

private theorem Chains.rotationGuarantee {db : AuthDb} (chains : Chains db)
    (service : AuthService) : RotationGuarantee service db where
  intact := fun _ member => chains.familyIntact member
  oneAccepted := by
    intro leftContext rightContext leftPresented rightPresented left right
      leftAccepted rightAccepted sameSession noCollision
    obtain ⟨leftToken, leftMember, leftHash, leftUnconsumed, _, leftSession⟩ :=
      call_refresh_ok (Prod.ext leftAccepted rfl)
    obtain ⟨rightToken, rightMember, rightHash, rightUnconsumed, _,
      rightSession⟩ := call_refresh_ok (Prod.ext rightAccepted rfl)
    have sameFamily :=
      (chains.familySession leftToken leftMember rightToken rightMember).mpr
        (leftSession.trans (sameSession.trans rightSession.symm))
    have same := chains.eq_of_unconsumed leftMember rightMember leftUnconsumed
      rightUnconsumed sameFamily
    exact noCollision (leftHash.symm.trans (same ▸ rightHash))
  reuse := by
    intro context presented token member sameHash used
    obtain ⟨session, found⟩ := chains.find_eq member sameHash
    have usedUp : (token.consumedAt.isSome || token.revokedAt.isSome ||
        session.revokedAt.isSome) = true := by
      rcases used with consumed | revokedAt
      · simp [consumed]
      · simp [revokedAt]
    rw [call_refresh_reused found usedUp]
    refine ⟨rfl, fun later reachable => ?_⟩
    obtain ⟨laterChains, dead⟩ :=
      Dead.of_reachable chains.revoked (dead_revoked member) reachable
    exact dead.rejected laterChains

/-- In every state that logins, refreshes and logouts reach, in any order and
under any faults, the rotation of refresh tokens keeps its guarantee. -/
theorem rotationGuarantee_of_reachable (service : AuthService) {db : AuthDb}
    (reachable : (authClient service).Reachable NoSessions db) :
    RotationGuarantee service db := by
  have chains := Chains.of_reachable (fun _ => chains_of_noSessions) reachable
  exact chains.rotationGuarantee service

namespace Sample

/-- The last 32 bytes, as a stand-in for a hash. -/
def lastBytes (bytes : Bytes) : FixedBytes 32 where
  bytes := (bytes.reverse ++ List.replicate 32 0).take 32
  sized := by simp

/-- Bytes are written as the characters with their codes. -/
def library : TokenLibrary where
  base64Encode bytes :=
    String.ofList (bytes.map fun byte => Char.ofNat (byte.toNat + 64))
  base64Decode text :=
    some (text.toList.map fun character => UInt8.ofNat (character.toNat - 64))
  hmacSha256 key message := lastBytes (key ++ message)
  sha256 := lastBytes
  headerToVec header := some (utf8Bytes header.alg)
  headerFromSlice _ := some ⟨"HS256", "JWT"⟩
  claimsToVec claims := some (utf8Bytes claims.sid.text)
  claimsFromSlice _ := none

def service : AuthService where
  library
  accessKey := ⟨List.replicate 32 1, by decide⟩
  issuer := "snm"
  audience := "snm-api"
  dummyPasswordHash := "!"
  verifyPassword password encoded := decide (password = utf8Bytes encoded)
  lower := toAsciiLowercase

/-- An organization with one active user. -/
def start : AuthDb where
  organizations := Table.put ⟨⟨1⟩, "acme"⟩ (.empty _)
  users :=
    Table.put ⟨⟨2⟩, ⟨1⟩, "ops@acme.test", .active, some "secret", none⟩
      (.empty _)
  sessions := .empty _
  refreshTokens := .empty _
  roleBindings := []
  rolePermissions := []
  permissions := []

def context (seed : Fin (2 ^ 128)) (random : UInt8) : CallContext where
  now := 1000000
  dbNow := 1000000
  sessionId := ⟨seed⟩
  familyId := ⟨seed⟩
  tokenId := ⟨seed⟩
  jti := ⟨seed⟩
  refreshRandom := FixedBytes.replicate 32 random
  csrfRandom := FixedBytes.replicate 32 random

/-- The token that the login issues. -/
def firstToken : Bytes :=
  utf8Bytes ("snm_rt_" ++ library.base64Encode (List.replicate 32 1))

def calls : List AuthCall :=
  [.login (context 10 1) ⟨"acme", "OPS@acme.test", "secret"⟩,
    .refresh (context 11 2) firstToken]

/-- The state after a login and a refresh with its token. -/
def rotated : AuthDb :=
  calls.foldl
    (fun db call => (((authClient service).program call).callFaulty [] db).2)
    start

end Sample

theorem rotationGuarantee_rotated :
    Sample.rotated.refreshTokens.rows.length = 2 ∧
      RotationGuarantee Sample.service Sample.rotated := by
  refine ⟨by decide, ?_⟩
  have start : (authClient Sample.service).Reachable NoSessions Sample.start :=
    .initial ⟨rfl, rfl⟩
  have loggedIn := Client.Reachable.call
    (AuthCall.login (Sample.context 10 1)
      ⟨"acme", "OPS@acme.test", "secret"⟩) [] start
  have refreshed := Client.Reachable.call
    (AuthCall.refresh (Sample.context 11 2) Sample.firstToken) [] loggedIn
  exact rotationGuarantee_of_reachable Sample.service refreshed

end NetworkManager.Backend
