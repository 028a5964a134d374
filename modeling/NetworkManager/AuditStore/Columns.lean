import NetworkManager.AuditStore.ReadBack

/-!
# The columns of sealed rows

An event is stored twice, as the payload that is sealed and in the columns that
queries read.  The verification reads the sealed columns alone, so it says
nothing about the others in a table that anything may have written to.  But the
table takes no updates, and the store fills both copies from one event: whatever
it has written and can verify, the columns of a row show the event that its
payload decodes to.
-/

namespace NetworkManager.AuditStore

open NetworkManager.Foundation
open NetworkManager.Security
open NetworkManager.Transaction

/-- Every column of a row is that of an event.  A duration is clipped to what
the column holds, and a JSON column that is `null` is absent. -/
structure AuditRow.Shows (row : AuditRow) (event : AuditEventDraft) : Prop where
  organizationId : row.organizationId = event.organizationId
  siteId : row.siteId = event.siteId
  actorType : row.actorType = event.actorType
  actorId : row.actorId = event.actorId
  sessionId : row.sessionId = event.sessionId
  sourceIp : row.sourceIp = event.sourceIp
  requestId : row.requestId = some event.requestId
  action : row.action = event.action
  resourceType : row.resourceType = event.resourceType
  resourceId : row.resourceId = event.resourceId
  correlationId : row.correlationId = event.correlationId
  provider : row.provider = event.provider
  status : row.status = event.status
  durationMs : row.durationMs = event.durationMs.map durationColumn
  reasonCode : row.reasonCode = event.reasonCode
  beforeState : (row.beforeState.filter fun value => value ≠ .null) =
    event.before
  afterState : (row.afterState.filter fun value => value ≠ .null) = event.after
  result : row.result = event.result.getD .null
  occurredAtUnixMs : row.occurredAtUnixMs = some event.occurredAtUnixMs

/-- The payload of every sealed row of an organization decodes to an event that
the columns of the row show. -/
def Genuine (library : AuditLibrary) (db : AuditDb) (organizationId : Uuid) :
    Prop :=
  ∀ row ∈ db.rows, row.organizationId = organizationId →
    ∀ columns, row.sealedColumns = some columns →
      ∃ event, library.fromSlice columns.canonicalPayload = some event ∧
        row.Shows event

/-- What is read from the payload of a draft, if anything, is the draft. -/
def ReadsEvent (library : AuditLibrary) (draft : AuditEventDraft) : Prop :=
  ∀ payload event, library.toVec draft.sanitize = some payload →
    library.fromSlice payload = some event →
    event = draft.sanitize.withoutNulls

section Columns

variable {library : AuditLibrary}

private theorem SerdeJson.readsEvent {draft : AuditEventDraft}
    (serde : SerdeJson library) (representable : draft.Representable) :
    ReadsEvent library draft := by
  intro payload event encoded parsed
  rw [serde.toVec_eq _ representable.sanitize, Option.some.injEq] at encoded
  rw [← encoded, serde.fromSlice_eq _ representable.sanitize,
    readDraft_writeDraft representable.sanitize] at parsed
  by_cases shallow : draft.sanitize.NestedAtMost payloadDepth
  · rw [if_pos shallow, Option.some.injEq] at parsed
    exact parsed.symm
  · rw [if_neg shallow] at parsed
    cases parsed

/-- A row is filled from the event that it seals. -/
theorem sealedRow_shows {id : Uuid} {chainSequence : Int} {payload : Bytes}
    {sealedEvent : SealedAuditEvent} :
    (sealedRow id chainSequence payload sealedEvent).Shows
      sealedEvent.event.withoutNulls where
  organizationId := rfl
  siteId := rfl
  actorType := rfl
  actorId := rfl
  sessionId := rfl
  sourceIp := rfl
  requestId := rfl
  action := rfl
  resourceType := rfl
  resourceId := rfl
  correlationId := rfl
  provider := rfl
  status := rfl
  durationMs := rfl
  reasonCode := rfl
  beforeState := rfl
  afterState := rfl
  result := by
    change sealedEvent.event.result.getD .null =
      (sealedEvent.event.result.filter fun value => value ≠ .null).getD .null
    cases sealedEvent.event.result with
    | none => rfl
    | some value =>
        by_cases isNull : value = .null <;> simp [Option.filter, isNull]
  occurredAtUnixMs := rfl

/-- Each payload of a verified chain decodes to an event. -/
theorem Verified.exists_event {rows : List ChainRow}
    {position : Int × Option (FixedBytes 32)}
    (verified : Verified library position rows) :
    ∀ row ∈ rows, ∃ event,
      library.fromSlice row.columns.canonicalPayload = some event := by
  induction rows generalizing position with
  | nil =>
      intro row member
      cases member
  | cons first rest inductionHypothesis =>
      intro row member
      rcases List.mem_cons.mp member with rfl | later
      · obtain ⟨event, _, parsed, _⟩ := verified.2.1
        exact ⟨event, parsed⟩
      · exact inductionHypothesis verified.2.2 row later

private theorem mem_chain
    {db : AuditDb} {row : AuditRow} {columns : SealedColumns}
    (member : row ∈ db.rows) (isSealed : row.sealedColumns = some columns) :
    ⟨row.id, columns⟩ ∈ db.chain row.organizationId := by
  rw [AuditDb.chain, List.mem_insertionSort, List.mem_filterMap]
  exact ⟨row, member, by simp [chainRow, isSealed]⟩

/-- Every row that some appends add is built by one of them. -/
theorem Wrote.mem {appends : List Append} {before after : AuditDb}
    (wrote : Wrote library appends before after) {row : AuditRow}
    (member : row ∈ after.rows) :
    row ∈ before.rows ∨ ∃ append ∈ appends, Built library row append := by
  induction wrote with
  | nil db => exact Or.inl member
  | @cons append rest added db reached built _ inductionHypothesis =>
      rcases inductionHypothesis member with old | ⟨other, isOther, isBuilt⟩
      · rcases List.mem_append.mp old with before | new
        · exact Or.inl before
        · cases List.mem_singleton.mp new
          exact Or.inr ⟨append, List.mem_cons_self .., built⟩
      · exact Or.inr ⟨other, List.mem_cons_of_mem append isOther, isBuilt⟩

/-- A sealed row was built by an append that was committed. -/
theorem built_of_history {first db : AuditDb}
    {commits : List (Commit (auditClient library))} (unsealed : Unsealed first)
    (history : History
      (fun commit => Wrote library (AuditCall.appends commit.call)
        commit.before commit.after) first commits db) {row : AuditRow}
    (member : row ∈ db.rows) (isSealed : row.sealedColumns ≠ none) :
    ∃ append ∈ committedAppends commits, Built library row append := by
  induction history with
  | nil => exact absurd (unsealed row member) isSealed
  | @cons commit commits _ wrote inductionHypothesis =>
      rw [committedAppends, List.flatMap_cons]
      rcases wrote.mem member with old | ⟨append, isAppend, built⟩
      · obtain ⟨append, isCommitted, built⟩ := inductionHypothesis old
        exact ⟨append, List.mem_append_right _ isCommitted, built⟩
      · exact ⟨append, List.mem_append_left _ isAppend, built⟩

/-- What a row shows that an append has built is what its payload says. -/
theorem Built.shows {row : AuditRow} {append : Append}
    {columns : SealedColumns} {event : AuditEventDraft}
    (built : Built library row append)
    (readsEvent : ReadsEvent library append.draft)
    (isSealed : row.sealedColumns = some columns)
    (parsed : library.fromSlice columns.canonicalPayload = some event) :
    row.Shows event := by
  obtain ⟨chainSequence, payload, sealedEvent, rfl, isEvent, encoded⟩ := built
  have isPayload : columns.canonicalPayload = payload := by
    cases isSealed
    rfl
  rw [isPayload] at parsed
  rw [readsEvent payload event encoded parsed, ← isEvent]
  exact sealedRow_shows

/-- In whatever order transactions append, commit and roll back, a chain that
verifies has no row whose columns say something else than its payload. -/
theorem genuine_of_verified (library : AuditLibrary) (hashText : String → Int)
    {system : System (auditClient library) (auditLocking hashText)}
    (reachable : System.Reachable Unsealed system)
    (readsEvent : ∀ append ∈ committedAppends system.commits,
      ReadsEvent library append.draft)
    {organizationId : Uuid} {checked : Nat}
    (valid : (verifyOrganizationChain library organizationId).call
      system.committed = (.ok (.valid checked), system.committed)) :
    Genuine library system.committed organizationId := by
  rintro row member rfl columns isSealed
  obtain ⟨_, first, unsealed, history⟩ := reachable.history
    (fun _ unsealed => unsealed.chainsLinked) keeps_auditClient
  have isSome : row.sealedColumns ≠ none := by
    rw [isSealed]
    exact Option.some_ne_none columns
  obtain ⟨append, isCommitted, built⟩ :=
    built_of_history unsealed history member isSome
  obtain ⟨event, parsed⟩ := (verified_of_call valid).1.exists_event _
    (mem_chain member isSealed)
  exact ⟨event, parsed,
    built.shows (readsEvent append isCommitted) isSealed parsed⟩

end Columns

namespace Sample

def codec : AuditLibrary := serdeLibrary sha256

/-- The first sealed columns of a chain. -/
def firstColumns (payload : Bytes) : SealedColumns :=
  ⟨1, payload, none, digest.bytes⟩

/-- The row of the draft, with another action. -/
def alteredRow : AuditRow :=
  { sealedRow ⟨3⟩ 1 (writeDraft draft.sanitize) ⟨draft.sanitize, none, digest⟩
      with action := "credential.read" }

def otherOrganizationId : Uuid := ⟨5⟩

/-- The row of the draft, in the chain of another organization. -/
def movedRow : AuditRow :=
  { sealedRow ⟨3⟩ 1 (writeDraft draft.sanitize) ⟨draft.sanitize, none, digest⟩
      with organizationId := otherOrganizationId }

private theorem serdeJson_codec : SerdeJson codec := serdeJson_serdeLibrary _

section Only

variable {row : AuditRow} {payload : Bytes}

private theorem readsBack_codec (requestId : String)
    (encoded : codec.toVec (draftOf requestId).sanitize = some payload) :
    ReadsBack codec payload := by
  rw [serdeJson_codec.toVec_eq _ (representable_draft requestId).sanitize,
    Option.some.injEq] at encoded
  rw [← encoded]
  exact serdeJson_codec.readsBack (representable_draft requestId)
    (shallow_draft requestId)

private theorem hashEvent_draft
    (encoded : codec.toVec draft.sanitize = some payload) :
    hashEvent codec payload none = digest := by
  have written := serdeJson_codec.toVec_eq _
    (representable_draft "r-1").sanitize
  rw [← Option.some.inj (written.symm.trans encoded)]
  decide +kernel

/-- The verification accepts the sealed columns of the draft in any row. -/
theorem verified_only (encoded : codec.toVec draft.sanitize = some payload)
    (isSealed : row.sealedColumns = some (firstColumns payload)) :
    (verifyOrganizationChain codec row.organizationId).call ⟨[row]⟩ =
      (.ok (.valid 1), ⟨[row]⟩) := by
  have isChain : AuditDb.chain ⟨[row]⟩ row.organizationId =
      [⟨row.id, firstColumns payload⟩] := by
    simp [AuditDb.chain, chainRow, isSealed]
  have readsBack := readsBack_codec "r-1" encoded
  apply call_of_verified
  · rw [isChain]
    exact ⟨⟨rfl, rfl, congrArg FixedBytes.bytes (hashEvent_draft encoded).symm⟩,
      readsBack.reseals none, trivial⟩
  · rw [isChain]
    rfl

/-- Their payload is that of the draft. -/
theorem shows_of_genuine
    (encoded : codec.toVec draft.sanitize = some payload)
    (isSealed : row.sealedColumns = some (firstColumns payload))
    (genuine : Genuine codec ⟨[row]⟩ row.organizationId) :
    row.Shows draft.sanitize.withoutNulls := by
  obtain ⟨event, parsed, shows⟩ :=
    genuine row (List.mem_singleton_self row) rfl _ isSealed
  rw [serdeJson_codec.readsEvent (representable_draft "r-1") payload event
    encoded parsed] at shows
  exact shows

end Only

end Sample

/-- A row with another action and a row of another organization are both
accepted. -/
theorem not_genuine_of_verified :
    (verifyOrganizationChain Sample.codec Sample.organizationId).call
        ⟨[Sample.alteredRow]⟩ = (.ok (.valid 1), ⟨[Sample.alteredRow]⟩) ∧
      ¬ Genuine Sample.codec ⟨[Sample.alteredRow]⟩ Sample.organizationId ∧
    (verifyOrganizationChain Sample.codec Sample.otherOrganizationId).call
        ⟨[Sample.movedRow]⟩ = (.ok (.valid 1), ⟨[Sample.movedRow]⟩) ∧
      ¬ Genuine Sample.codec ⟨[Sample.movedRow]⟩
        Sample.otherOrganizationId := by
  have encoded := Sample.serdeJson_codec.toVec_eq _
    (Sample.representable_draft "r-1").sanitize
  have altered : Sample.alteredRow.sealedColumns =
      some (Sample.firstColumns (writeDraft Sample.draft.sanitize)) := rfl
  have moved : Sample.movedRow.sealedColumns =
      some (Sample.firstColumns (writeDraft Sample.draft.sanitize)) := rfl
  refine ⟨Sample.verified_only encoded altered, ?_,
    Sample.verified_only encoded moved, ?_⟩
  · intro genuine
    have sameAction :=
      (Sample.shows_of_genuine encoded altered genuine).action
    revert sameAction
    decide
  · intro genuine
    have sameOrganization :=
      (Sample.shows_of_genuine encoded moved genuine).organizationId
    revert sameOrganization
    decide

theorem genuine_overtaken :
    Genuine Sample.codec (Sample.overtaken Sample.codec).committed
      Sample.organizationId := by
  have drafts : (committedAppends (Sample.overtaken Sample.codec).commits).map
      Append.draft = [Sample.laterDraft, Sample.draft] := by
    decide +kernel
  have isDraft : ∀ append ∈
      committedAppends (Sample.overtaken Sample.codec).commits,
      ∃ requestId, append.draft = Sample.draftOf requestId := by
    intro append member
    have among := List.mem_map_of_mem (f := Append.draft) member
    simp only [drafts, List.mem_cons, List.not_mem_nil, or_false] at among
    rcases among with isLater | isFirst
    · exact ⟨"r-2", isLater⟩
    · exact ⟨"r-1", isFirst⟩
  have reachable := Sample.reachable_overtaken Sample.codec
  have valid := verified_of_reachable reachable
    (by
      intro append member payload encoded
      rcases isDraft append member with ⟨requestId, isDraft⟩
      rw [isDraft] at encoded
      exact Sample.readsBack_codec requestId encoded)
    Sample.organizationId
  refine genuine_of_verified Sample.codec (fun _ => 0) reachable ?_ valid
  intro append member
  rcases isDraft append member with ⟨requestId, isDraft⟩
  rw [isDraft]
  exact Sample.serdeJson_codec.readsEvent (Sample.representable_draft requestId)

end NetworkManager.AuditStore
