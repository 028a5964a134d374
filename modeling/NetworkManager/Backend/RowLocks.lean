import NetworkManager.Backend.RefreshFailure
import NetworkManager.Transaction.Outcomes

/-!
# The authentication service under row locks

Concurrent calls of the service run their statements under READ COMMITTED.  A
statement locks the rows that it updates or selects for update and finds their
last versions; but the update that revokes the tokens of a family only reaches
the rows that were there when it began, so it may miss a token that a refresh
is inserting.
-/

namespace NetworkManager.Backend

open NetworkManager.Foundation
open NetworkManager.Security.Token
open NetworkManager.Transaction

/-- A statement, and the tokens that were there when it began. -/
structure RowStatement where
  statement : Statement
  visible : Uuid → Bool

inductive RowWrite where
  /-- A write to one row. -/
  | single (write : Write)
  | tokenRevoked (id : Uuid) (now : Timestamp)

/-- `revoked_at = COALESCE(revoked_at, now)`. -/
def markRevoked (now : Timestamp) (token : RefreshTokenRow) :
    RefreshTokenRow :=
  { token with revokedAt := token.revokedAt.or (some now) }

/-- Revoke the tokens that a condition selects. -/
def revokeWhere (selected : RefreshTokenRow → Bool) (now : Timestamp)
    (db : AuthDb) : AuthDb :=
  { db with
    refreshTokens := db.refreshTokens.update selected (markRevoked now)
      fun _ => rfl }

def applyRowWrite : RowWrite → AuthDb → AuthDb
  | .single write, db => applyWrite write db
  | .tokenRevoked id now, db => revokeWhere (fun token => token.id = id) now db

/-- The rows of a family that an update reaches. -/
def reachedTokens (visible : Uuid → Bool) (familyId : Uuid) (db : AuthDb) :
    List RefreshTokenRow :=
  db.refreshTokens.rows.filter fun token =>
    decide (token.familyId = familyId) && visible token.id

/-- A write as writes to single rows. -/
def rowWrites (visible : Uuid → Bool) (db : AuthDb) : Write → List RowWrite
  | .tokensRevoked familyId now =>
      (reachedTokens visible familyId db).map fun token =>
        .tokenRevoked token.id now
  | write => [.single write]

/-- The answer to a statement with its writes taken apart. -/
def onRows {ρ : Type} (visible : Uuid → Bool) (db : AuthDb)
    (answer : Except SqlError (ρ × List Write)) :
    Except SqlError (ρ × List RowWrite) :=
  match answer with
  | .error fault => .error fault
  | .ok (reply, writes) =>
      .ok (reply, writes.flatMap (rowWrites visible db))

def execRow (lower : String → String) (row : RowStatement) (db : AuthDb) :
    Except SqlError (Reply row.statement × List RowWrite) :=
  onRows row.visible db ((authSql lower).exec row.statement db)

/-- The database of the service with its writes taken apart into rows. -/
abbrev rowSql (lower : String → String) : Database where
  Statement := RowStatement
  Reply row := Reply row.statement
  Fault := SqlError
  State := AuthDb
  Write := RowWrite
  apply := applyRowWrite
  exec := execRow lower

/-- A program of the service as its transaction runs. -/
def atRows {lower : String → String} {ε α : Type} (visible : Uuid → Bool) :
    Program (authSql lower) ε α → Program (rowSql lower) ε α
  | .done outcome => .done outcome
  | .exec statement onFault next =>
      .exec (D := rowSql lower) ⟨statement, visible⟩ onFault fun reply =>
        atRows visible (next reply)
  | .commit onFault next => .commit onFault (atRows visible next)

private theorem revokeWhere_revokeWhere {first second : RefreshTokenRow → Bool}
    {now : Timestamp} {db : AuthDb}
    (unmoved : ∀ token, second (markRevoked now token) = second token) :
    revokeWhere second now (revokeWhere first now db) =
      revokeWhere (fun token => first token || second token) now db := by
  have again : ∀ token, markRevoked now (markRevoked now token) =
      markRevoked now token := by
    intro token
    cases revokedAt : token.revokedAt with
    | none => simp [markRevoked, revokedAt]
    | some instant => simp [markRevoked, revokedAt]
  exact congrArg (fun table => { db with refreshTokens := table })
    (Table.update_update again unmoved)

private theorem applyAll_tokenRevoked
    {lower : String → String} {now : Timestamp}
    (tokens : List RefreshTokenRow) (db : AuthDb) :
    (rowSql lower).applyAll
        (tokens.map fun token => .tokenRevoked token.id now) db =
      revokeWhere (fun row => tokens.any fun token =>
        decide (row.id = token.id)) now db := by
  induction tokens generalizing db with
  | nil =>
      exact congrArg (fun table => { db with refreshTokens := table })
        (Table.update_none db.refreshTokens).symm
  | cons token rest inductionHypothesis =>
      have first : (rowSql lower).apply (.tokenRevoked token.id now) db =
          revokeWhere (fun row => row.id = token.id) now db := rfl
      rw [List.map_cons, Database.applyAll_cons, inductionHypothesis, first,
        revokeWhere_revokeWhere fun _ => rfl]
      rfl

/-- A statement that sees all rows writes what it would write alone. -/
theorem applyAll_rowWrites {lower : String → String} (write : Write)
    (db : AuthDb) :
    (rowSql lower).applyAll (rowWrites (fun _ => true) db write) db =
      applyWrite write db := by
  cases write with
  | tokensRevoked familyId now =>
      have selects : ∀ row ∈ db.refreshTokens.rows,
          ((reachedTokens (fun _ => true) familyId db).any fun token =>
            decide (row.id = token.id)) = decide (row.familyId = familyId) := by
        intro row member
        rw [Bool.eq_iff_iff, List.any_eq_true, decide_eq_true_iff]
        constructor
        · rintro ⟨token, reached, sameId⟩
          rw [reachedTokens, List.mem_filter] at reached
          have same : row = token := Table.eq_of_mem_of_key_eq member reached.1
            (of_decide_eq_true sameId)
          rw [same]
          simpa using reached.2
        · intro inFamily
          refine ⟨row, List.mem_filter.mpr ⟨member, ?_⟩, decide_eq_true rfl⟩
          simpa using inFamily
      rw [rowWrites, applyAll_tokenRevoked]
      exact congrArg (fun table => { db with refreshTokens := table })
        (Table.update_congr selects)
  | _ => rfl

/-! ## Row locks -/

inductive RowKey where
  | session (id : Uuid)
  | token (id : Uuid)
deriving DecidableEq

/-- The rows that a statement locks. -/
def lockedRows (row : RowStatement) (db : AuthDb) : List RowKey :=
  match row.statement with
  | .insertSession session => [.session session.id]
  | .insertRefreshToken token => [.token token.id]
  | .selectRefreshToken hash =>
      match execSelectRefreshToken hash db with
      | none => []
      | some (token, session) => [.token token.id, .session session.id]
  | .consumeRefreshToken id _ _ => [.token id]
  | .updateSessionToken sessionId _ _ _ => [.session sessionId]
  | .revokeTokens familyId _ =>
      (reachedTokens row.visible familyId db).map fun token => .token token.id
  | .revokeSession sessionId _ => [.session sessionId]
  | .selectFamily hash =>
      match db.refreshTokens.rows.find? fun token => token.tokenHash = hash with
      | none => []
      | some token => [.token token.id]
  | _ => []

/-- The rows that a write may change. -/
def RowWrite.Touches : RowWrite → RowKey → Prop
  | .single (.session row), .session id => row.id = id
  | .single (.refreshToken row), .token id => row.id = id
  | .single (.consumed changed _ _), .token id => changed = id
  | .single (.sessionToken changed _ _ _), .session id => changed = id
  | .single (.tokensRevoked _ _), .token _ => True
  | .single (.sessionRevoked changed _), .session id => changed = id
  | .tokenRevoked changed _, .token id => changed = id
  | _, _ => False

abbrev RowSlice : RowKey → Type
  | .session _ => Option SessionRow
  | .token _ => Option RefreshTokenRow

def rowSlice : (key : RowKey) → AuthDb → RowSlice key
  | .session id, db => db.sessions.lookup id
  | .token id, db => db.refreshTokens.lookup id

/-- The row of a session whose token is rotated. -/
def rotateRow (sessionId : Uuid) (hash : FixedBytes 32) (tokenPrefix : String)
    (now : Timestamp) (session : SessionRow) : SessionRow :=
  if session.id = sessionId then
    { session with
      refreshTokenHash := hash
      refreshTokenPrefix := tokenPrefix
      lastUsedAt := some now }
  else
    session

/-- The row of a token that is revoked. -/
def revokeOne (id : Uuid) (now : Timestamp) (token : RefreshTokenRow) :
    RefreshTokenRow :=
  if token.id = id then markRevoked now token else token

/-- What a write makes of a row. -/
def changeRow : RowWrite → (key : RowKey) → RowSlice key → RowSlice key
  | .single (.session row), .session id, found =>
      if row.id = id then some row else found
  | .single (.refreshToken row), .token id, found =>
      if row.id = id then some row else found
  | .single (.consumed changed now nextId), .token _, found =>
      found.map (consume changed now nextId)
  | .single (.sessionToken changed hash tokenPrefix now), .session _, found =>
      found.map (rotateRow changed hash tokenPrefix now)
  | .single (.tokensRevoked familyId now), .token _, found =>
      found.map (revokeToken familyId now)
  | .single (.sessionRevoked changed now), .session _, found =>
      found.map (revokeRow changed now)
  | .tokenRevoked changed now, .token _, found =>
      found.map (revokeOne changed now)
  | _, _, found => found

theorem rowSlice_applyRowWrite (write : RowWrite) (key : RowKey)
    (db : AuthDb) :
    rowSlice key (applyRowWrite write db) =
      changeRow write key (rowSlice key db) := by
  cases key with
  | session id =>
      cases write with
      | tokenRevoked changed now => rfl
      | single write =>
          cases write with
          | session row => exact Table.lookup_put ..
          | sessionToken changed hash tokenPrefix now =>
              apply Table.lookup_update_eq
              · exact fun _ => rfl
              · intro session
                simp [rotateRow]
          | sessionRevoked changed now =>
              apply Table.lookup_update_eq
              · exact fun _ => rfl
              · intro session
                simp [revokeRow]
          | _ => rfl
  | token id =>
      cases write with
      | tokenRevoked changed now =>
          apply Table.lookup_update_eq
          · exact fun _ => rfl
          · intro token
            simp [revokeOne]
      | single write =>
          cases write with
          | refreshToken row => exact Table.lookup_put ..
          | consumed changed now nextId =>
              apply Table.lookup_update_eq
              · exact fun _ => rfl
              · intro token
                simp [consume]
          | tokensRevoked familyId now =>
              apply Table.lookup_update_eq
              · exact fun _ => rfl
              · intro token
                simp [revokeToken]
          | _ => rfl

/-- A write leaves the rows that it does not touch. -/
theorem changeRow_of_not_touches {write : RowWrite} {key : RowKey}
    (db : AuthDb) (untouched : ¬write.Touches key) :
    changeRow write key (rowSlice key db) = rowSlice key db := by
  cases key with
  | session id =>
      have keeps {change : SessionRow → SessionRow}
          (same : ∀ session, session.id = id → change session = session) :
          (db.sessions.lookup id).map change = db.sessions.lookup id := by
        cases found : db.sessions.lookup id with
        | none => rfl
        | some session =>
            exact congrArg some (same session (Table.key_of_lookup found))
      cases write with
      | tokenRevoked changed now => rfl
      | single write =>
          cases write with
          | session row => exact if_neg untouched
          | sessionToken changed hash tokenPrefix now =>
              exact keeps fun session isId =>
                if_neg fun same => untouched (same.symm.trans isId)
          | sessionRevoked changed now =>
              exact keeps fun session isId =>
                if_neg fun same => untouched (same.symm.trans isId)
          | _ => rfl
  | token id =>
      have keeps {change : RefreshTokenRow → RefreshTokenRow}
          (same : ∀ token, token.id = id → change token = token) :
          (db.refreshTokens.lookup id).map change =
            db.refreshTokens.lookup id := by
        cases found : db.refreshTokens.lookup id with
        | none => rfl
        | some token =>
            exact congrArg some (same token (Table.key_of_lookup found))
      cases write with
      | tokenRevoked changed now =>
          exact keeps fun token isId =>
            if_neg fun same => untouched (same.symm.trans isId)
      | single write =>
          cases write with
          | refreshToken row => exact if_neg untouched
          | consumed changed now nextId =>
              exact keeps fun token isId =>
                if_neg fun same => untouched (same.symm.trans isId)
          | tokensRevoked familyId now => exact absurd trivial untouched
          | _ => rfl

/-- The locks of the service. -/
def rowLocking (lower : String → String) : Locking (rowSql lower) where
  Key := RowKey
  acquires := lockedRows
  Slice := RowSlice
  slice := rowSlice
  touches := RowWrite.Touches
  slice_apply := fun {key write} db untouched =>
    (rowSlice_applyRowWrite write key db).trans
      (changeRow_of_not_touches db untouched)
  slice_apply_congr := by
    intro key write left right same
    have leftChanged := rowSlice_applyRowWrite write key left
    have rightChanged := rowSlice_applyRowWrite write key right
    exact leftChanged.trans ((congrArg (changeRow write key) same).trans
      rightChanged.symm)

section Statements

variable {lower : String → String} {statement : Statement}
  {visible : Uuid → Bool} {view : AuthDb} {reply : Reply statement}
  {writes : List Write}

theorem onRows_eq_ok {ρ : Type} {answer : Except SqlError (ρ × List Write)}
    {given : ρ} {changes : List RowWrite}
    (answered : onRows visible view answer = .ok (given, changes)) :
    ∃ writes, answer = .ok (given, writes) ∧
      changes = writes.flatMap (rowWrites visible view) := by
  cases answer with
  | error fault => cases answered
  | ok answer =>
      cases answered
      exact ⟨answer.2, rfl, rfl⟩

/-- A statement makes one write at most. -/
theorem writes_of_exec
    (answered : (authSql lower).exec statement view = .ok (reply, writes)) :
    writes = [] ∨ ∃ write, writes = [write] := by
  cases statement with
  | insertSession row =>
      exact Or.inr ⟨_, (execInsertSession_eq_ok answered).1⟩
  | insertRefreshToken row =>
      exact Or.inr ⟨_, (execInsertRefreshToken_eq_ok answered).1⟩
  | consumeRefreshToken id now nextId =>
      exact Or.inr ⟨_, execConsumeRefreshToken_eq_ok answered⟩
  | updateLastLogin userId now => exact Or.inr ⟨_, by cases answered; rfl⟩
  | updateSessionToken sessionId hash tokenPrefix now =>
      exact Or.inr ⟨_, by cases answered; rfl⟩
  | revokeTokens familyId now => exact Or.inr ⟨_, by cases answered; rfl⟩
  | revokeSession sessionId now => exact Or.inr ⟨_, by cases answered; rfl⟩
  | selectLoginUser organizationSlug email =>
      exact Or.inl (by cases answered; rfl)
  | selectRefreshToken hash => exact Or.inl (by cases answered; rfl)
  | selectFamily hash => exact Or.inl (by cases answered; rfl)
  | selectSession sessionId => exact Or.inl (by cases answered; rfl)
  | selectPermissions organizationId userId =>
      exact Or.inl (by cases answered; rfl)

private theorem covers_of_single {locks : List RowKey} (write : Write)
    (isSingle : writes = [write])
    (locked : ∀ rowWrite ∈ rowWrites visible view write, ∀ key,
      rowWrite.Touches key → key ∈ locks) :
    (rowLocking lower).Covers locks
      (writes.flatMap (rowWrites visible view)) := by
  intro rowWrite member key touched
  rw [isSingle, List.flatMap_singleton] at member
  exact locked rowWrite member key touched

/-- A statement locks the rows that it writes. -/
theorem covers_rowWrites
    (answered : (authSql lower).exec statement view = .ok (reply, writes)) :
    (rowLocking lower).Covers (lockedRows ⟨statement, visible⟩ view)
      (writes.flatMap (rowWrites visible view)) := by
  cases statement with
  | insertSession row =>
      refine covers_of_single _ (execInsertSession_eq_ok answered).1 ?_
      intro rowWrite member key touched
      cases List.mem_singleton.mp member
      cases key with
      | session id => exact List.mem_singleton.mpr (congrArg _ touched.symm)
      | token id => exact touched.elim
  | insertRefreshToken row =>
      refine covers_of_single _ (execInsertRefreshToken_eq_ok answered).1 ?_
      intro rowWrite member key touched
      cases List.mem_singleton.mp member
      cases key with
      | session id => exact touched.elim
      | token id => exact List.mem_singleton.mpr (congrArg _ touched.symm)
  | consumeRefreshToken changed now nextId =>
      refine covers_of_single _ (execConsumeRefreshToken_eq_ok answered) ?_
      intro rowWrite member key touched
      cases List.mem_singleton.mp member
      cases key with
      | session id => exact touched.elim
      | token id => exact List.mem_singleton.mpr (congrArg _ touched.symm)
  | updateLastLogin userId now =>
      refine covers_of_single (.lastLogin userId now) (by cases answered; rfl) ?_
      intro rowWrite member key touched
      cases List.mem_singleton.mp member
      cases key with
      | session id => exact touched.elim
      | token id => exact touched.elim
  | updateSessionToken changed hash tokenPrefix now =>
      refine covers_of_single (.sessionToken changed hash tokenPrefix now)
        (by cases answered; rfl) ?_
      intro rowWrite member key touched
      cases List.mem_singleton.mp member
      cases key with
      | session id => exact List.mem_singleton.mpr (congrArg _ touched.symm)
      | token id => exact touched.elim
  | revokeTokens familyId now =>
      refine covers_of_single (.tokensRevoked familyId now)
        (by cases answered; rfl) ?_
      intro rowWrite member key touched
      rcases List.mem_map.mp member with ⟨token, isReached, rfl⟩
      cases key with
      | session id => exact touched.elim
      | token id =>
          exact List.mem_map.mpr ⟨token, isReached, congrArg _ touched⟩
  | revokeSession changed now =>
      refine covers_of_single (.sessionRevoked changed now)
        (by cases answered; rfl) ?_
      intro rowWrite member key touched
      cases List.mem_singleton.mp member
      cases key with
      | session id => exact List.mem_singleton.mpr (congrArg _ touched.symm)
      | token id => exact touched.elim
  | _ =>
      -- the other statements only read
      cases answered
      exact Locking.covers_nil _

/-- One statement that sees all rows. -/
theorem applyAll_flatMap_rowWrites
    (answered : (authSql lower).exec statement view = .ok (reply, writes)) :
    (rowSql lower).applyAll
        (writes.flatMap (rowWrites (fun _ => true) view)) view =
      (authSql lower).applyAll writes view := by
  rcases writes_of_exec answered with rfl | ⟨write, rfl⟩
  · rfl
  · rw [List.flatMap_singleton, applyAll_rowWrites]
    rfl

end Statements

/-- Alone, and with every row in sight, a call does the same on rows. -/
theorem callFaulty_atRows {lower : String → String} {ε α : Type}
    (program : Program (authSql lower) ε α) (plan : List (Option SqlError))
    (db : AuthDb) :
    (atRows (fun _ => true) program).callFaulty plan db =
      program.callFaulty plan db := by
  suffices same : ∀ committed working : AuthDb,
      ((atRows (fun _ => true) program).evalFaulty plan
          ⟨committed, working⟩).1 =
        (program.evalFaulty plan ⟨committed, working⟩).1 ∧
      ((atRows (fun _ => true) program).evalFaulty plan
          ⟨committed, working⟩).2.committed =
        (program.evalFaulty plan ⟨committed, working⟩).2.committed from
    Prod.ext (same db db).1 (same db db).2
  induction program generalizing plan with
  | done outcome => exact fun _ _ => ⟨rfl, rfl⟩
  | exec statement onFault next inductionHypothesis =>
      intro committed working
      rw [atRows, Program.evalFaulty, Program.evalFaulty]
      cases plan.head?.join with
      | some fault => exact ⟨rfl, rfl⟩
      | none =>
          cases answered : (authSql lower).exec statement working with
          | error fault =>
              have refused : execRow lower ⟨statement, fun _ => true⟩ working =
                  .error fault := congrArg (onRows _ working) answered
              simp only [refused]
              exact ⟨trivial, rfl⟩
          | ok answer =>
              rcases answer with ⟨reply, writes⟩
              have rows : execRow lower ⟨statement, fun _ => true⟩ working =
                  .ok (reply, writes.flatMap
                    (rowWrites (fun _ => true) working)) :=
                congrArg (onRows _ working) answered
              simp only [rows]
              rw [applyAll_flatMap_rowWrites answered]
              exact inductionHypothesis reply plan.tail committed _
  | commit onFault next inductionHypothesis =>
      intro committed working
      rw [atRows, Program.evalFaulty, Program.evalFaulty]
      cases plan.head?.join with
      | some fault => exact ⟨rfl, rfl⟩
      | none => exact inductionHypothesis plan.tail working working

end NetworkManager.Backend
