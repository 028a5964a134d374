import NetworkManager.Backend.Auth

/-!
# Chains of refresh tokens

The tokens of a family form a chain: one for each generation, all consumed but
the last, whose hash the session keeps.  Starting a chain, rotating its last
token and revoking a family keep this.
-/

namespace NetworkManager.Backend

open NetworkManager.Foundation
open NetworkManager.Security.Token
open NetworkManager.Transaction

/-- The refresh tokens form chains, one for each session. -/
structure Chains (db : AuthDb) : Prop where
  hashUnique : ∀ left ∈ db.refreshTokens.rows,
    ∀ right ∈ db.refreshTokens.rows,
      left.tokenHash = right.tokenHash → left = right
  generationUnique : ∀ left ∈ db.refreshTokens.rows,
    ∀ right ∈ db.refreshTokens.rows, left.familyId = right.familyId →
      left.generation = right.generation → left = right
  sessionExists : ∀ token ∈ db.refreshTokens.rows,
    (db.sessions.lookup token.sessionId).isSome
  familySession : ∀ left ∈ db.refreshTokens.rows,
    ∀ right ∈ db.refreshTokens.rows,
      left.familyId = right.familyId ↔ left.sessionId = right.sessionId
  generationRange : ∀ token ∈ db.refreshTokens.rows,
    0 ≤ token.generation ∧ token.generation < 2 ^ 63
  predecessor : ∀ token ∈ db.refreshTokens.rows, token.generation ≠ 0 →
    ∃ previous ∈ db.refreshTokens.rows,
      previous.familyId = token.familyId ∧
        previous.generation + 1 = token.generation
  successor : ∀ token ∈ db.refreshTokens.rows, token.consumedAt.isSome →
    ∃ next ∈ db.refreshTokens.rows, next.familyId = token.familyId ∧
      next.generation = token.generation + 1 ∧
        token.replacedById = some next.id
  last : ∀ token ∈ db.refreshTokens.rows, token.consumedAt = none →
    ∀ other ∈ db.refreshTokens.rows, other.familyId = token.familyId →
      other.generation ≤ token.generation
  current : ∀ token ∈ db.refreshTokens.rows, token.consumedAt = none →
    ∀ session, db.sessions.lookup token.sessionId = some session →
      session.refreshTokenHash = token.tokenHash

/-- The columns that revoking leaves alone. -/
structure SameToken (token changed : RefreshTokenRow) : Prop where
  id : changed.id = token.id
  sessionId : changed.sessionId = token.sessionId
  familyId : changed.familyId = token.familyId
  generation : changed.generation = token.generation
  tokenHash : changed.tokenHash = token.tokenHash
  consumedAt : changed.consumedAt = token.consumedAt
  replacedById : changed.replacedById = token.replacedById

/-- The row of a token that is consumed and replaced. -/
def consume (id : Uuid) (now : Timestamp) (nextId : Uuid)
    (token : RefreshTokenRow) : RefreshTokenRow :=
  if token.id = id then
    { token with consumedAt := some now, replacedById := some nextId }
  else
    token

section Consume

variable {id nextId : Uuid} {now : Timestamp} {token : RefreshTokenRow}

@[simp]
theorem id_consume : (consume id now nextId token).id = token.id := by
  unfold consume
  split <;> rfl

@[simp]
theorem sessionId_consume :
    (consume id now nextId token).sessionId = token.sessionId := by
  unfold consume
  split <;> rfl

@[simp]
theorem familyId_consume :
    (consume id now nextId token).familyId = token.familyId := by
  unfold consume
  split <;> rfl

@[simp]
theorem generation_consume :
    (consume id now nextId token).generation = token.generation := by
  unfold consume
  split <;> rfl

@[simp]
theorem tokenHash_consume :
    (consume id now nextId token).tokenHash = token.tokenHash := by
  unfold consume
  split <;> rfl

end Consume

/-- The columns that give a token its place in a chain. -/
structure SamePlace (token changed : RefreshTokenRow) : Prop where
  sessionId : changed.sessionId = token.sessionId
  familyId : changed.familyId = token.familyId
  generation : changed.generation = token.generation
  tokenHash : changed.tokenHash = token.tokenHash
  id : changed.id = token.id

private theorem SamePlace.refl
    (token : RefreshTokenRow) : SamePlace token token :=
  ⟨rfl, rfl, rfl, rfl, rfl⟩

/-- Another token at the end of its family, the old ones keeping their place. -/
structure Extends (db reached : AuthDb)
    (change : RefreshTokenRow → RefreshTokenRow) (next : RefreshTokenRow) :
    Prop where
  tokens : ∀ changed, changed ∈ reached.refreshTokens.rows ↔
    changed = next ∨ ∃ old ∈ db.refreshTokens.rows, change old = changed
  same : ∀ old, SamePlace old (change old)
  freshHash : ∀ old ∈ db.refreshTokens.rows, old.tokenHash ≠ next.tokenHash
  beyond : ∀ old ∈ db.refreshTokens.rows, old.familyId = next.familyId →
    old.generation < next.generation
  familySession : ∀ old ∈ db.refreshTokens.rows,
    old.familyId = next.familyId ↔ old.sessionId = next.sessionId
  range : 0 ≤ next.generation ∧ next.generation < 2 ^ 63
  unconsumed : next.consumedAt = none
  follows : next.generation ≠ 0 → ∃ previous ∈ db.refreshTokens.rows,
    previous.familyId = next.familyId ∧
      previous.generation + 1 = next.generation
  overtaken : ∀ old ∈ db.refreshTokens.rows, (change old).consumedAt = none →
    old.consumedAt = none ∧ old.familyId ≠ next.familyId
  replaced : ∀ old ∈ db.refreshTokens.rows, (change old).consumedAt.isSome →
    (old.consumedAt.isSome ∧
      (change old).replacedById = old.replacedById) ∨
    (next.familyId = old.familyId ∧ next.generation = old.generation + 1 ∧
      (change old).replacedById = some next.id)
  session : (reached.sessions.lookup next.sessionId).map
    SessionRow.refreshTokenHash = some next.tokenHash
  otherSessions : ∀ old ∈ db.refreshTokens.rows,
    old.sessionId ≠ next.sessionId →
      (reached.sessions.lookup old.sessionId).map SessionRow.refreshTokenHash =
        (db.sessions.lookup old.sessionId).map SessionRow.refreshTokenHash

namespace Extends

variable {db reached : AuthDb} {change : RefreshTokenRow → RefreshTokenRow}
variable {next : RefreshTokenRow}

/-- A relation of places holds throughout if it holds with the new token. -/
theorem forall_pair (extended : Extends db reached change next)
    (related : RefreshTokenRow → RefreshTokenRow → Prop)
    (self : related next next)
    (newer : ∀ old ∈ db.refreshTokens.rows, related next (change old))
    (older : ∀ old ∈ db.refreshTokens.rows, related (change old) next)
    (kept : ∀ left ∈ db.refreshTokens.rows, ∀ right ∈ db.refreshTokens.rows,
      related (change left) (change right)) :
    ∀ left ∈ reached.refreshTokens.rows, ∀ right ∈ reached.refreshTokens.rows,
      related left right := by
  intro left leftMember right rightMember
  rcases (extended.tokens left).mp leftMember with
    rfl | ⟨oldLeft, isLeft, rfl⟩ <;>
  rcases (extended.tokens right).mp rightMember with
    rfl | ⟨oldRight, isRight, rfl⟩
  · exact self
  · exact newer oldRight isRight
  · exact older oldLeft isLeft
  · exact kept oldLeft isLeft oldRight isRight

private theorem hashUnique (extended : Extends db reached change next)
    (chains : Chains db) : ∀ left ∈ reached.refreshTokens.rows,
      ∀ right ∈ reached.refreshTokens.rows,
        left.tokenHash = right.tokenHash → left = right := by
  refine extended.forall_pair
    (fun left right => left.tokenHash = right.tokenHash → left = right)
    ?_ ?_ ?_ ?_
  · exact fun _ => rfl
  · intro old member sameHash
    rw [(extended.same old).tokenHash] at sameHash
    exact absurd sameHash.symm (extended.freshHash old member)
  · intro old member sameHash
    rw [(extended.same old).tokenHash] at sameHash
    exact absurd sameHash (extended.freshHash old member)
  · intro left leftMember right rightMember sameHash
    rw [(extended.same left).tokenHash, (extended.same right).tokenHash]
      at sameHash
    rw [chains.hashUnique left leftMember right rightMember sameHash]

private theorem generationUnique (extended : Extends db reached change next)
    (chains : Chains db) : ∀ left ∈ reached.refreshTokens.rows,
      ∀ right ∈ reached.refreshTokens.rows, left.familyId = right.familyId →
        left.generation = right.generation → left = right := by
  refine extended.forall_pair
    (fun left right => left.familyId = right.familyId →
      left.generation = right.generation → left = right) ?_ ?_ ?_ ?_
  · exact fun _ _ => rfl
  · intro old member sameFamily sameGeneration
    rw [(extended.same old).familyId] at sameFamily
    rw [(extended.same old).generation] at sameGeneration
    exact absurd sameGeneration.symm
      (extended.beyond old member sameFamily.symm).ne
  · intro old member sameFamily sameGeneration
    rw [(extended.same old).familyId] at sameFamily
    rw [(extended.same old).generation] at sameGeneration
    exact absurd sameGeneration (extended.beyond old member sameFamily).ne
  · intro left leftMember right rightMember sameFamily sameGeneration
    rw [(extended.same left).familyId, (extended.same right).familyId]
      at sameFamily
    rw [(extended.same left).generation, (extended.same right).generation]
      at sameGeneration
    rw [chains.generationUnique left leftMember right rightMember sameFamily
      sameGeneration]

private theorem familySession_reached
    (extended : Extends db reached change next)
    (chains : Chains db) : ∀ left ∈ reached.refreshTokens.rows,
      ∀ right ∈ reached.refreshTokens.rows,
        left.familyId = right.familyId ↔ left.sessionId = right.sessionId := by
  refine extended.forall_pair
    (fun left right =>
      left.familyId = right.familyId ↔ left.sessionId = right.sessionId)
    ?_ ?_ ?_ ?_
  · exact ⟨fun _ => rfl, fun _ => rfl⟩
  · intro old member
    rw [(extended.same old).familyId, (extended.same old).sessionId,
      eq_comm, extended.familySession old member, eq_comm]
  · intro old member
    rw [(extended.same old).familyId, (extended.same old).sessionId]
    exact extended.familySession old member
  · intro left leftMember right rightMember
    rw [(extended.same left).familyId, (extended.same right).familyId,
      (extended.same left).sessionId, (extended.same right).sessionId]
    exact chains.familySession left leftMember right rightMember

private theorem last (extended : Extends db reached change next)
    (chains : Chains db) : ∀ token ∈ reached.refreshTokens.rows,
      ∀ other ∈ reached.refreshTokens.rows, token.consumedAt = none →
        other.familyId = token.familyId →
          other.generation ≤ token.generation := by
  refine extended.forall_pair
    (fun token other => token.consumedAt = none →
      other.familyId = token.familyId → other.generation ≤ token.generation)
    ?_ ?_ ?_ ?_
  · exact fun _ _ => le_rfl
  · intro old member _ sameFamily
    rw [(extended.same old).familyId] at sameFamily
    rw [(extended.same old).generation]
    exact (extended.beyond old member sameFamily).le
  · intro old member unconsumed sameFamily
    rw [(extended.same old).familyId] at sameFamily
    exact absurd sameFamily.symm (extended.overtaken old member unconsumed).2
  · intro old member other otherMember unconsumed sameFamily
    rw [(extended.same old).familyId, (extended.same other).familyId]
      at sameFamily
    rw [(extended.same old).generation, (extended.same other).generation]
    exact chains.last old member (extended.overtaken old member unconsumed).1
      other otherMember sameFamily

private theorem sessionExists (extended : Extends db reached change next)
    (chains : Chains db) : ∀ token ∈ reached.refreshTokens.rows,
      (reached.sessions.lookup token.sessionId).isSome := by
  have present : (reached.sessions.lookup next.sessionId).isSome := by
    rw [← Option.isSome_map, extended.session]
    rfl
  intro token member
  rcases (extended.tokens token).mp member with rfl | ⟨old, isOld, rfl⟩
  · exact present
  · rw [(extended.same old).sessionId]
    by_cases here : old.sessionId = next.sessionId
    · rw [here]
      exact present
    · rw [← Option.isSome_map, extended.otherSessions old isOld here,
        Option.isSome_map]
      exact chains.sessionExists old isOld

private theorem predecessor (extended : Extends db reached change next)
    (chains : Chains db) : ∀ token ∈ reached.refreshTokens.rows,
      token.generation ≠ 0 → ∃ previous ∈ reached.refreshTokens.rows,
        previous.familyId = token.familyId ∧
          previous.generation + 1 = token.generation := by
  have changed : ∀ token : RefreshTokenRow, (∃ previous ∈ db.refreshTokens.rows,
      previous.familyId = token.familyId ∧
        previous.generation + 1 = token.generation) →
      ∃ previous ∈ reached.refreshTokens.rows,
        previous.familyId = token.familyId ∧
          previous.generation + 1 = token.generation := by
    rintro token ⟨previous, isPrevious, sameFamily, before⟩
    refine ⟨change previous,
      (extended.tokens _).mpr (Or.inr ⟨previous, isPrevious, rfl⟩), ?_, ?_⟩
    · rw [(extended.same previous).familyId, sameFamily]
    · rw [(extended.same previous).generation, before]
  intro token member positive
  rcases (extended.tokens token).mp member with rfl | ⟨old, isOld, rfl⟩
  · exact changed token (extended.follows positive)
  · rw [(extended.same old).generation] at positive
    rw [(extended.same old).familyId, (extended.same old).generation]
    exact changed old (chains.predecessor old isOld positive)

private theorem successor (extended : Extends db reached change next)
    (chains : Chains db) : ∀ token ∈ reached.refreshTokens.rows,
      token.consumedAt.isSome → ∃ after ∈ reached.refreshTokens.rows,
        after.familyId = token.familyId ∧
          after.generation = token.generation + 1 ∧
            token.replacedById = some after.id := by
  intro token member consumed
  rcases (extended.tokens token).mp member with rfl | ⟨old, isOld, rfl⟩
  · rw [extended.unconsumed] at consumed
    cases consumed
  · rw [(extended.same old).familyId, (extended.same old).generation]
    rcases extended.replaced old isOld consumed with
      ⟨before, replacement⟩ | ⟨sameFamily, generation, replacement⟩
    · obtain ⟨after, isAfter, sameFamily, generation, replaced⟩ :=
        chains.successor old isOld before
      refine ⟨change after,
        (extended.tokens _).mpr (Or.inr ⟨after, isAfter, rfl⟩), ?_, ?_, ?_⟩
      · rw [(extended.same after).familyId, sameFamily]
      · rw [(extended.same after).generation, generation]
      · rw [(extended.same after).id, replacement, replaced]
    · exact ⟨next, (extended.tokens next).mpr (Or.inl rfl), sameFamily,
        generation, replacement⟩

private theorem current (extended : Extends db reached change next)
    (chains : Chains db) : ∀ token ∈ reached.refreshTokens.rows,
      token.consumedAt = none → ∀ session,
        reached.sessions.lookup token.sessionId = some session →
          session.refreshTokenHash = token.tokenHash := by
  intro token member unconsumed session found
  rcases (extended.tokens token).mp member with rfl | ⟨old, isOld, rfl⟩
  · simpa [found] using extended.session
  · obtain ⟨before, otherFamily⟩ := extended.overtaken old isOld unconsumed
    have otherSession : old.sessionId ≠ next.sessionId :=
      fun here => otherFamily ((extended.familySession old isOld).mpr here)
    have hashes := extended.otherSessions old isOld otherSession
    rw [(extended.same old).sessionId] at found
    rw [(extended.same old).tokenHash]
    obtain ⟨stored, isStored⟩ :=
      Option.isSome_iff_exists.mp (chains.sessionExists old isOld)
    rw [found, isStored, Option.map_some, Option.map_some,
      Option.some.injEq] at hashes
    rw [hashes]
    exact chains.current old isOld before stored isStored

/-- A token at the end of its family keeps the chains. -/
theorem chains (extended : Extends db reached change next)
    (before : Chains db) : Chains reached where
  hashUnique := extended.hashUnique before
  generationUnique := extended.generationUnique before
  sessionExists := extended.sessionExists before
  familySession := extended.familySession_reached before
  generationRange := by
    intro token member
    rcases (extended.tokens token).mp member with rfl | ⟨old, isOld, rfl⟩
    · exact extended.range
    · rw [(extended.same old).generation]
      exact before.generationRange old isOld
  predecessor := extended.predecessor before
  successor := extended.successor before
  last := by
    intro token member unconsumed other otherMember
    exact extended.last before token member other otherMember unconsumed
  current := extended.current before

end Extends

namespace Chains

variable {db : AuthDb}

/-- A family has one unconsumed token at most. -/
theorem eq_of_unconsumed (chains : Chains db) {left right : RefreshTokenRow}
    (leftMember : left ∈ db.refreshTokens.rows)
    (rightMember : right ∈ db.refreshTokens.rows)
    (leftUnconsumed : left.consumedAt = none)
    (rightUnconsumed : right.consumedAt = none)
    (sameFamily : left.familyId = right.familyId) : left = right := by
  have low := chains.last right rightMember rightUnconsumed left leftMember
    sameFamily
  have high := chains.last left leftMember leftUnconsumed right rightMember
    sameFamily.symm
  exact chains.generationUnique left leftMember right rightMember sameFamily
    (le_antisymm low high)

/-- Every family has a first generation. -/
theorem exists_first (chains : Chains db) {token : RefreshTokenRow}
    (member : token ∈ db.refreshTokens.rows) :
    ∃ first ∈ db.refreshTokens.rows, first.familyId = token.familyId ∧
      first.generation = 0 := by
  have descend : ∀ (bound : Nat) (row : RefreshTokenRow),
      row ∈ db.refreshTokens.rows → row.familyId = token.familyId →
      row.generation = bound →
      ∃ first ∈ db.refreshTokens.rows, first.familyId = token.familyId ∧
        first.generation = 0 := by
    intro bound
    induction bound with
    | zero =>
        intro row rowMember sameFamily first
        exact ⟨row, rowMember, sameFamily, first⟩
    | succ bound inductionHypothesis =>
        intro row rowMember sameFamily later
        obtain ⟨previous, previousMember, previousFamily, before⟩ :=
          chains.predecessor row rowMember (by omega)
        exact inductionHypothesis previous previousMember
          (previousFamily.trans sameFamily) (by omega)
  have range := chains.generationRange token member
  exact descend token.generation.toNat token member rfl (by omega)

/-- A change of other columns keeps the chains. -/
theorem of_same {reached : AuthDb} (chains : Chains db)
    {change : RefreshTokenRow → RefreshTokenRow}
    (same : ∀ token, SameToken token (change token))
    (tokens : ∀ changed, changed ∈ reached.refreshTokens.rows ↔
      ∃ token ∈ db.refreshTokens.rows, change token = changed)
    (sessions : ∀ id,
      (reached.sessions.lookup id).map SessionRow.refreshTokenHash =
        (db.sessions.lookup id).map SessionRow.refreshTokenHash) :
    Chains reached where
  hashUnique := by
    intro left leftMember right rightMember sameHash
    obtain ⟨oldLeft, oldLeftMember, rfl⟩ := (tokens left).mp leftMember
    obtain ⟨oldRight, oldRightMember, rfl⟩ := (tokens right).mp rightMember
    rw [(same oldLeft).tokenHash, (same oldRight).tokenHash] at sameHash
    rw [chains.hashUnique oldLeft oldLeftMember oldRight oldRightMember
      sameHash]
  generationUnique := by
    intro left leftMember right rightMember sameFamily sameGeneration
    obtain ⟨oldLeft, oldLeftMember, rfl⟩ := (tokens left).mp leftMember
    obtain ⟨oldRight, oldRightMember, rfl⟩ := (tokens right).mp rightMember
    rw [(same oldLeft).familyId, (same oldRight).familyId] at sameFamily
    rw [(same oldLeft).generation, (same oldRight).generation]
      at sameGeneration
    rw [chains.generationUnique oldLeft oldLeftMember oldRight oldRightMember
      sameFamily sameGeneration]
  sessionExists := by
    intro token member
    obtain ⟨old, oldMember, rfl⟩ := (tokens token).mp member
    have exists' := chains.sessionExists old oldMember
    rw [(same old).sessionId, ← Option.isSome_map, sessions,
      Option.isSome_map]
    exact exists'
  familySession := by
    intro left leftMember right rightMember
    obtain ⟨oldLeft, oldLeftMember, rfl⟩ := (tokens left).mp leftMember
    obtain ⟨oldRight, oldRightMember, rfl⟩ := (tokens right).mp rightMember
    rw [(same oldLeft).familyId, (same oldRight).familyId,
      (same oldLeft).sessionId, (same oldRight).sessionId]
    exact chains.familySession oldLeft oldLeftMember oldRight oldRightMember
  generationRange := by
    intro token member
    obtain ⟨old, oldMember, rfl⟩ := (tokens token).mp member
    rw [(same old).generation]
    exact chains.generationRange old oldMember
  predecessor := by
    intro token member positive
    obtain ⟨old, oldMember, rfl⟩ := (tokens token).mp member
    rw [(same old).generation] at positive
    obtain ⟨previous, previousMember, sameFamily, before⟩ :=
      chains.predecessor old oldMember positive
    refine ⟨change previous, (tokens _).mpr ⟨previous, previousMember, rfl⟩,
      ?_, ?_⟩
    · rw [(same previous).familyId, (same old).familyId, sameFamily]
    · rw [(same previous).generation, (same old).generation, before]
  successor := by
    intro token member consumed
    obtain ⟨old, oldMember, rfl⟩ := (tokens token).mp member
    rw [(same old).consumedAt] at consumed
    obtain ⟨next, nextMember, sameFamily, after, replaced⟩ :=
      chains.successor old oldMember consumed
    refine ⟨change next, (tokens _).mpr ⟨next, nextMember, rfl⟩, ?_, ?_, ?_⟩
    · rw [(same next).familyId, (same old).familyId, sameFamily]
    · rw [(same next).generation, (same old).generation, after]
    · rw [(same old).replacedById, (same next).id, replaced]
  last := by
    intro token member unconsumed other otherMember sameFamily
    obtain ⟨old, oldMember, rfl⟩ := (tokens token).mp member
    obtain ⟨oldOther, oldOtherMember, rfl⟩ := (tokens other).mp otherMember
    rw [(same old).consumedAt] at unconsumed
    rw [(same old).familyId, (same oldOther).familyId] at sameFamily
    rw [(same old).generation, (same oldOther).generation]
    exact chains.last old oldMember unconsumed oldOther oldOtherMember
      sameFamily
  current := by
    intro token member unconsumed session found
    obtain ⟨old, oldMember, rfl⟩ := (tokens token).mp member
    rw [(same old).consumedAt] at unconsumed
    rw [(same old).sessionId] at found
    have sameHash := sessions old.sessionId
    rw [found] at sameHash
    cases stored : db.sessions.lookup old.sessionId with
    | none => simp [stored] at sameHash
    | some before =>
        have kept := chains.current old oldMember unconsumed before stored
        rw [stored] at sameHash
        have hashes : session.refreshTokenHash = before.refreshTokenHash := by
          simpa using sameHash
        rw [(same old).tokenHash, hashes, kept]

/-- What a refresh inserts after the token that was presented. -/
structure Next (db : AuthDb) (token next : RefreshTokenRow) : Prop where
  member : token ∈ db.refreshTokens.rows
  unconsumed : token.consumedAt = none
  freshId : db.refreshTokens.lookup next.id = none
  freshHash : ∀ other ∈ db.refreshTokens.rows,
    other.tokenHash ≠ next.tokenHash
  familyId : next.familyId = token.familyId
  sessionId : next.sessionId = token.sessionId
  generation : next.generation = token.generation + 1
  bounded : next.generation < 2 ^ 63
  nextUnconsumed : next.consumedAt = none

/-- The tokens after a rotation. -/
theorem mem_rotated {token next changed : RefreshTokenRow} {now : Timestamp}
    (isNext : Next db token next) :
    changed ∈ ((db.refreshTokens.put next).update
        (fun row => row.id = token.id)
        (fun row =>
          { row with consumedAt := some now, replacedById := some next.id })
        fun _ => rfl).rows ↔
      changed = next ∨ ∃ old ∈ db.refreshTokens.rows,
        consume token.id now next.id old = changed := by
  have differentId : ∀ old ∈ db.refreshTokens.rows, old.id ≠ next.id :=
    Table.lookup_eq_none_iff.mp isNext.freshId
  rw [Table.mem_update]
  constructor
  · rintro ⟨old, oldMember, rfl⟩
    rcases Table.mem_put.mp oldMember with rfl | ⟨kept, _⟩
    · have notToken : old.id ≠ token.id :=
        (differentId token isNext.member).symm
      simp [notToken]
    · refine Or.inr ⟨old, kept, ?_⟩
      unfold consume
      by_cases same : old.id = token.id <;> simp [same]
  · rintro (rfl | ⟨old, oldMember, rfl⟩)
    · have notToken : changed.id ≠ token.id :=
        (differentId token isNext.member).symm
      refine ⟨changed, Table.mem_put_self changed _, by simp [notToken]⟩
    · have stillThere : old ∈ (db.refreshTokens.put next).rows :=
        Table.mem_put.mpr (Or.inr ⟨oldMember, differentId old oldMember⟩)
      refine ⟨old, stillThere, ?_⟩
      unfold consume
      by_cases same : old.id = token.id <;> simp [same]

private theorem samePlace_consume (id nextId : Uuid) (now : Timestamp)
    (token : RefreshTokenRow) : SamePlace token (consume id now nextId token) :=
  ⟨sessionId_consume, familyId_consume, generation_consume, tokenHash_consume,
    id_consume⟩

/-- The token of a rotation is the last of its family. -/
theorem Next.beyond {token next : RefreshTokenRow} (isNext : Next db token next)
    (chains : Chains db) : ∀ old ∈ db.refreshTokens.rows,
      old.familyId = next.familyId → old.generation < next.generation := by
  intro old member sameFamily
  have atMost := chains.last token isNext.member isNext.unconsumed old member
    (sameFamily.trans isNext.familyId)
  have after := isNext.generation
  omega

/-- Only tokens of other families stay unconsumed through a rotation. -/
theorem Next.overtaken {token next : RefreshTokenRow} {now : Timestamp}
    (isNext : Next db token next) (chains : Chains db) :
    ∀ old ∈ db.refreshTokens.rows,
      (consume token.id now next.id old).consumedAt = none →
        old.consumedAt = none ∧ old.familyId ≠ next.familyId := by
  intro old member unconsumed
  have different : old.id ≠ token.id := by
    intro same
    simp [consume, same] at unconsumed
  rw [consume, if_neg different] at unconsumed
  refine ⟨unconsumed, fun sameFamily => different ?_⟩
  rw [chains.eq_of_unconsumed member isNext.member unconsumed
    isNext.unconsumed (sameFamily.trans isNext.familyId)]

/-- The successor of the rotated token is the new one. -/
theorem Next.replaced {token next : RefreshTokenRow} {now : Timestamp}
    (isNext : Next db token next) : ∀ old ∈ db.refreshTokens.rows,
      (consume token.id now next.id old).consumedAt.isSome →
        (old.consumedAt.isSome ∧
          (consume token.id now next.id old).replacedById =
            old.replacedById) ∨
        (next.familyId = old.familyId ∧
          next.generation = old.generation + 1 ∧
          (consume token.id now next.id old).replacedById =
            some next.id) := by
  intro old member consumed
  by_cases isToken : old.id = token.id
  · have same : old = token :=
      Table.eq_of_mem_of_key_eq member isNext.member isToken
    subst same
    exact Or.inr ⟨isNext.familyId, isNext.generation, by simp [consume]⟩
  · rw [consume, if_neg isToken] at consumed ⊢
    exact Or.inl ⟨consumed, rfl⟩

/-- A rotation keeps the chains. -/
theorem rotate {reached : AuthDb} {token next : RefreshTokenRow}
    {now : Timestamp} (chains : Chains db) (isNext : Next db token next)
    (tokens : ∀ changed, changed ∈ reached.refreshTokens.rows ↔
      changed = next ∨ ∃ old ∈ db.refreshTokens.rows,
        consume token.id now next.id old = changed)
    (sessions : ∀ id,
      (reached.sessions.lookup id).map SessionRow.refreshTokenHash =
        (db.sessions.lookup id).map fun session =>
          if id = token.sessionId then next.tokenHash
          else session.refreshTokenHash) :
    Chains reached := by
  have extended : Extends db reached (consume token.id now next.id) next :=
    { tokens
      same := samePlace_consume token.id next.id now
      freshHash := isNext.freshHash
      beyond := isNext.beyond chains
      familySession := by
        rw [isNext.familyId, isNext.sessionId]
        exact fun old member =>
          chains.familySession old member token isNext.member
      range := by
        have range := chains.generationRange token isNext.member
        have after := isNext.generation
        exact ⟨by omega, isNext.bounded⟩
      unconsumed := isNext.nextUnconsumed
      follows := fun _ => ⟨token, isNext.member, isNext.familyId.symm,
        isNext.generation.symm⟩
      overtaken := isNext.overtaken chains
      replaced := isNext.replaced
      session := by
        obtain ⟨session, found⟩ := Option.isSome_iff_exists.mp
          (chains.sessionExists token isNext.member)
        rw [isNext.sessionId, sessions, found, Option.map_some, if_pos rfl]
      otherSessions := by
        intro old member elsewhere
        rw [isNext.sessionId] at elsewhere
        simp only [sessions, if_neg elsewhere] }
  exact extended.chains chains

/-- A first token of a new family, in a new session, keeps the chains. -/
theorem start {reached : AuthDb} {token : RefreshTokenRow}
    {session : SessionRow} (chains : Chains db)
    (freshId : db.refreshTokens.lookup token.id = none)
    (freshHash : ∀ other ∈ db.refreshTokens.rows,
      other.tokenHash ≠ token.tokenHash)
    (freshFamily : ∀ other ∈ db.refreshTokens.rows,
      ¬ (other.familyId = token.familyId ∧
        other.generation = token.generation))
    (freshSession : db.sessions.lookup session.id = none)
    (first : token.generation = 0) (unconsumed : token.consumedAt = none)
    (sameSession : token.sessionId = session.id)
    (sameHash : session.refreshTokenHash = token.tokenHash)
    (tokens : reached.refreshTokens = db.refreshTokens.put token)
    (sessions : reached.sessions = db.sessions.put session) :
    Chains reached := by
  have otherFamily : ∀ row ∈ db.refreshTokens.rows,
      row.familyId ≠ token.familyId := by
    intro row member sameFamily
    obtain ⟨oldest, oldestMember, oldestFamily, oldestFirst⟩ :=
      chains.exists_first member
    exact freshFamily oldest oldestMember
      ⟨oldestFamily.trans sameFamily, oldestFirst.trans first.symm⟩
  have otherSession : ∀ row ∈ db.refreshTokens.rows,
      row.sessionId ≠ token.sessionId := by
    intro row member same
    have present := chains.sessionExists row member
    rw [same, sameSession, freshSession] at present
    cases present
  have extended : Extends db reached id token :=
    { tokens := by
        intro row
        simp only [tokens, Table.rows_put_of_lookup_none freshId,
          List.mem_append, List.mem_singleton, id, exists_eq_right, or_comm]
      same := SamePlace.refl
      freshHash
      beyond := fun old member same =>
        absurd same (otherFamily old member)
      familySession := fun old member =>
        iff_of_false (otherFamily old member) (otherSession old member)
      range := by
        rw [first]
        decide
      unconsumed
      follows := fun later => absurd first later
      overtaken := fun old member before =>
        ⟨before, otherFamily old member⟩
      replaced := fun _ _ consumed => Or.inl ⟨consumed, rfl⟩
      session := by
        rw [sessions, sameSession, Table.lookup_put_self, Option.map_some,
          sameHash]
      otherSessions := by
        intro old member elsewhere
        rw [sameSession] at elsewhere
        rw [sessions, Table.lookup_put_of_ne (Ne.symm elsewhere)] }
  exact extended.chains chains

end Chains

section Statements

variable {db : AuthDb} {writes : List Write}

theorem execInsertSession_eq_ok {row : SessionRow}
    (inserted : execInsertSession row db = .ok ((), writes)) :
    writes = [.session row] ∧ db.sessions.lookup row.id = none := by
  unfold execInsertSession at inserted
  split at inserted
  · cases inserted
  · rename_i absent
    split at inserted
    · cases inserted
    · split at inserted
      · cases inserted
      · cases inserted
        exact ⟨rfl, by simpa using absent⟩

/-- A token that may be inserted. -/
structure Insertable (db : AuthDb) (row : RefreshTokenRow) : Prop where
  freshId : db.refreshTokens.lookup row.id = none
  freshHash : ∀ other ∈ db.refreshTokens.rows, other.tokenHash ≠ row.tokenHash
  freshGeneration : ∀ other ∈ db.refreshTokens.rows,
    ¬ (other.familyId = row.familyId ∧ other.generation = row.generation)
  nonnegative : 0 ≤ row.generation

theorem execInsertRefreshToken_eq_ok {row : RefreshTokenRow}
    (inserted : execInsertRefreshToken row db = .ok ((), writes)) :
    writes = [.refreshToken row] ∧ Insertable db row := by
  unfold execInsertRefreshToken at inserted
  split at inserted
  · cases inserted
  · rename_i freshId
    split at inserted
    · cases inserted
    · rename_i freshHash
      split at inserted
      · cases inserted
      · rename_i freshGeneration
        split at inserted
        · cases inserted
        · split at inserted
          · cases inserted
          · rename_i nonnegative
            split at inserted
            · cases inserted
            · cases inserted
              refine ⟨rfl, ?_, ?_, ?_, not_lt.mp nonnegative⟩
              · simpa using freshId
              · simpa using freshHash
              · simpa using freshGeneration

theorem execConsumeRefreshToken_eq_ok {id nextId : Uuid} {now : Timestamp}
    (consumed : execConsumeRefreshToken id now nextId db = .ok ((), writes)) :
    writes = [.consumed id now nextId] := by
  unfold execConsumeRefreshToken at consumed
  split at consumed
  · cases consumed
    rfl
  · cases consumed

theorem execSelectRefreshToken_eq_some {hash : FixedBytes 32}
    {token : RefreshTokenRow} {session : SessionRow}
    (found : execSelectRefreshToken hash db = some (token, session)) :
    token ∈ db.refreshTokens.rows ∧ token.tokenHash = hash ∧
      db.sessions.lookup token.sessionId = some session := by
  unfold execSelectRefreshToken at found
  cases present :
      db.refreshTokens.rows.find? fun token => token.tokenHash = hash with
  | none => simp [present] at found
  | some row =>
      rw [present] at found
      obtain ⟨stored, storedFound, same⟩ := Option.map_eq_some_iff.mp found
      cases same
      exact ⟨List.mem_of_find?_eq_some present,
        by simpa using List.find?_some present, storedFound⟩

end Statements

/-- The state that `revokeFamily` leaves. -/
def revoked (familyId sessionId : Uuid) (now : Timestamp) (db : AuthDb) :
    AuthDb :=
  applyWrite (.sessionRevoked sessionId now)
    (applyWrite (.tokensRevoked familyId now) db)

def revokeToken (familyId : Uuid) (now : Timestamp)
    (token : RefreshTokenRow) : RefreshTokenRow :=
  if token.familyId = familyId then
    { token with revokedAt := token.revokedAt.or (some now) }
  else
    token

def revokeRow (sessionId : Uuid) (now : Timestamp) (session : SessionRow) :
    SessionRow :=
  if session.id = sessionId then
    { session with revokedAt := session.revokedAt.or (some now) }
  else
    session

section Revocation

variable {db : AuthDb} {familyId sessionId : Uuid} {now : Timestamp}

theorem sameToken_revokeToken (familyId : Uuid) (now : Timestamp)
    (token : RefreshTokenRow) :
    SameToken token (revokeToken familyId now token) := by
  unfold revokeToken
  split <;> constructor <;> rfl

theorem mem_revoked {changed : RefreshTokenRow} :
    changed ∈ (revoked familyId sessionId now db).refreshTokens.rows ↔
      ∃ token ∈ db.refreshTokens.rows,
        revokeToken familyId now token = changed := by
  simp only [revoked, applyWrite, Table.mem_update, revokeToken,
    decide_eq_true_eq]

theorem lookup_sessions_revoked (id : Uuid) :
    (revoked familyId sessionId now db).sessions.lookup id =
      (db.sessions.lookup id).map (revokeRow sessionId now) := by
  simp only [revoked, applyWrite, Table.lookup_update, decide_eq_true_eq]
  rfl

theorem Chains.revoked (chains : Chains db) :
    Chains (revoked familyId sessionId now db) := by
  apply chains.of_same (sameToken_revokeToken familyId now) fun _ => mem_revoked
  intro id
  rw [lookup_sessions_revoked, Option.map_map]
  congr 1
  funext session
  simp only [Function.comp_apply, revokeRow]
  split <;> rfl

end Revocation

/-- The writes of a rotation keep the chains. -/
theorem Chains.rotated {db : AuthDb} {token next : RefreshTokenRow}
    {now : Timestamp} {tokenPrefix : String} (chains : Chains db)
    (isNext : Chains.Next db token next) :
    Chains
      (applyWrite (.sessionToken token.sessionId next.tokenHash tokenPrefix now)
        (applyWrite (.consumed token.id now next.id)
          (applyWrite (.refreshToken next) db))) := by
  refine chains.rotate isNext (fun changed => Chains.mem_rotated isNext)
    fun id => ?_
  simp only [applyWrite, Table.lookup_update, Option.map_map]
  cases stored : db.sessions.lookup id with
  | none => rfl
  | some session =>
      have sameId : session.id = id := Table.key_of_lookup stored
      by_cases here : id = token.sessionId <;> simp [sameId, here]

end NetworkManager.Backend
