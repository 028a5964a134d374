import NetworkManager.AuditStore.Chain
import NetworkManager.Security.AuditCodec

/-!
# Payloads that can be read back

The verification parses every payload again.  `serde_json` writes values of any
depth and reads them down to a limit, so a draft with a JSON field that is
nested too deeply is appended and from then on ends every verification of its
organization with an error.  All other drafts survive.
-/

namespace NetworkManager.AuditStore

open NetworkManager.Foundation
open NetworkManager.Foundation.JsonText
open NetworkManager.Security
open NetworkManager.Transaction

/-- On the drafts that the types of their fields can hold and on what they are
written as, the library is `serde_json`. -/
structure SerdeJson (library : AuditLibrary) : Prop where
  toVec_eq : ∀ draft : AuditEventDraft, draft.Representable →
    library.toVec draft = some (writeDraft draft)
  fromSlice_eq : ∀ draft : AuditEventDraft, draft.Representable →
    library.fromSlice (writeDraft draft) = readDraft (writeDraft draft)

/-- `serde_json` with a hash function. -/
def serdeLibrary (sha256 : Bytes → FixedBytes 32) : AuditLibrary where
  toVec draft := some (writeDraft draft)
  fromSlice := readDraft
  sha256

theorem serdeJson_serdeLibrary (sha256 : Bytes → FixedBytes 32) :
    SerdeJson (serdeLibrary sha256) :=
  ⟨fun _ _ => rfl, fun _ _ => rfl⟩

/-- What the append of a draft did to the table can be verified: the stored
payload reads back and seals to the stored hash, and a chain that was valid is
valid with one more row. -/
structure Survives (library : AuditLibrary) (draft : AuditEventDraft)
    (before after : AuditDb) : Prop where
  reseals : ∃ row columns previousHash event sealedEvent,
    after.rows = before.rows ++ [row] ∧ row.sealedColumns = some columns ∧
    columns.previousHash = Option.map FixedBytes.bytes previousHash ∧
    library.fromSlice columns.canonicalPayload = some event ∧
    event.seal library previousHash = .ok sealedEvent ∧
    sealedEvent.eventHash.bytes = columns.eventHash
  verifies : ∀ checked,
    (verifyOrganizationChain library draft.organizationId).call before =
      (.ok (.valid checked), before) →
    (verifyOrganizationChain library draft.organizationId).call after =
      (.ok (.valid (checked + 1)), after)

/-- No JSON field of the sanitized draft is nested too deeply. -/
def Shallow (draft : AuditEventDraft) : Prop :=
  draft.sanitize.NestedAtMost payloadDepth

section Serde

variable {library : AuditLibrary} {draft : AuditEventDraft}

private theorem SerdeJson.fromSlice_eq_none (serde : SerdeJson library)
    (representable : draft.Representable) (deep : ¬ Shallow draft) :
    library.fromSlice (writeDraft draft.sanitize) = none := by
  have parsed := serde.fromSlice_eq _ representable.sanitize
  rw [Shallow] at deep
  rw [readDraft_writeDraft representable.sanitize, if_neg deep] at parsed
  exact parsed

/-- What is read back is written as it was. -/
theorem SerdeJson.readsBack (serde : SerdeJson library)
    (representable : draft.Representable) (shallow : Shallow draft) :
    ReadsBack library (writeDraft draft.sanitize) := by
  have parsed := serde.fromSlice_eq _ representable.sanitize
  rw [Shallow] at shallow
  rw [readDraft_writeDraft representable.sanitize, if_pos shallow] at parsed
  refine ⟨_, parsed, ?_⟩
  rw [AuditEventDraft.sanitize_withoutNulls,
    serde.toVec_eq _ representable.sanitize.withoutNulls, writeDraft,
    AuditEventDraft.members_withoutNulls]
  rfl

/-- The row of an append and the chain that it leaves. -/
structure Appended (library : AuditLibrary) (draft : AuditEventDraft)
    (before after : AuditDb) (row : AuditRow) (columns : SealedColumns)
    (previousHash : Option (FixedBytes 32)) : Prop where
  rows : after.rows = before.rows ++ [row]
  isSealed : row.sealedColumns = some columns
  payload : columns.canonicalPayload = writeDraft draft.sanitize
  previous : columns.previousHash = previousHash.map FixedBytes.bytes
  eventHash : columns.eventHash =
    (hashEvent library (writeDraft draft.sanitize) previousHash).bytes
  linked : Linked library (1, none) (before.chain draft.organizationId) →
    after.chain draft.organizationId =
        before.chain draft.organizationId ++ [⟨row.id, columns⟩] ∧
      Fits library ((before.chain draft.organizationId).foldl
        (advance library) (1, none)) ⟨row.id, columns⟩

private theorem SerdeJson.appended (serde : SerdeJson library)
    (representable : draft.Representable) {id eventId : Uuid}
    {connection reached : Connection auditSql}
    (ended : (appendInTx library id draft).eval connection =
      (.ok eventId, reached)) :
    ∃ row columns previousHash,
      Appended library draft connection.working reached.working row columns
        previousHash := by
  obtain ⟨chainSequence, previousHash, sealedEvent, payload, position,
    isSealed, encoded, rows⟩ := steps_of_eval_appendInTx ended
  obtain ⟨columns, hasColumns, ofOrganization, payloadOf, fits⟩ :=
    @exists_sealedRow library id draft chainSequence previousHash sealedEvent
      payload isSealed encoded
  have written : columns.canonicalPayload = writeDraft draft.sanitize := by
    rw [serde.toVec_eq _ representable.sanitize] at payloadOf
    exact (Option.some.inj payloadOf).symm
  refine ⟨_, columns, previousHash, rows, hasColumns, written,
    fits.previousHash, ?_, ?_⟩
  · rw [← written]
    exact fits.eventHash
  · intro linked
    have isNext := linked.nextChainPosition_eq position
    rw [isNext] at fits
    rw [← ofOrganization] at linked fits ⊢
    have reachedRows : reached.working =
        ⟨connection.working.rows ++
          [sealedRow id chainSequence payload sealedEvent]⟩ := by
      rw [← rows]
    rw [reachedRows]
    exact ⟨chain_append linked hasColumns fits, fits⟩

private theorem Appended.survives {before after : AuditDb} {row : AuditRow}
    {columns : SealedColumns} {previousHash : Option (FixedBytes 32)}
    (appended : Appended library draft before after row columns previousHash)
    (readsBack : ReadsBack library (writeDraft draft.sanitize)) :
    Survives library draft before after := by
  constructor
  case reseals =>
    obtain ⟨event, parsed, encoded⟩ := readsBack
    refine ⟨row, columns, previousHash, event,
      ⟨event.sanitize, previousHash,
        hashEvent library (writeDraft draft.sanitize) previousHash⟩,
      appended.rows, appended.isSealed, appended.previous, ?_, ?_, ?_⟩
    · rw [appended.payload]
      exact parsed
    · exact AuditEventDraft.seal_eq_ok_iff.mpr ⟨_, encoded, rfl⟩
    · exact appended.eventHash.symm
  case verifies =>
    intro checked valid
    obtain ⟨verified, isLength⟩ := verified_of_call valid
    obtain ⟨isChain, fits⟩ := appended.linked verified.linked
    have reseals := readsBack.reseals ((before.chain draft.organizationId).foldl
      (advance library) (1, none)).2
    rw [← appended.payload] at reseals
    have allVerified := (verified_append _ _ _).mpr ⟨verified, fits, reseals⟩
    apply call_of_verified
    · rw [isChain]
      exact allVerified
    · rw [isChain, List.length_append, isLength]
      rfl

private theorem Appended.shallow {before after : AuditDb} {row : AuditRow}
    {columns : SealedColumns} {previousHash : Option (FixedBytes 32)}
    (appended : Appended library draft before after row columns previousHash)
    (serde : SerdeJson library) (representable : draft.Representable)
    (survives : Survives library draft before after) : Shallow draft := by
  by_contra deep
  obtain ⟨stored, storedColumns, _, event, _, rows, isSealed, _, parsed, _⟩ :=
    survives.reseals
  have sameRow : row = stored := by
    have sameRows := appended.rows.symm.trans rows
    simpa using List.append_cancel_left sameRows
  have sameColumns : columns = storedColumns := by
    rw [← sameRow, appended.isSealed] at isSealed
    exact Option.some.inj isSealed
  rw [← sameColumns, appended.payload,
    serde.fromSlice_eq_none representable deep] at parsed
  cases parsed

/-- A payload that cannot be read ends the verification. -/
theorem verifyRows_cons_of_unreadable {row : ChainRow} {rest : List ChainRow}
    {position : Int × Option (FixedBytes 32)} {checked : Nat}
    (fits : Fits library position row)
    (unreadable : library.fromSlice row.columns.canonicalPayload = none) :
    verifyRows library position.1 position.2 checked (row :: rest) =
      .error .json := by
  rw [verifyRows, if_neg (not_not_intro fits.chainSequence),
    fits.previousHash, fits.eventHash, optionalFixed_map_bytes, fixed_bytes]
  simp [bind, Except.bind, unreadable]

/-- After the append of a draft that is nested too deeply there is no
verification of the organization. -/
theorem Appended.call_eq_error {before after : AuditDb} {row : AuditRow}
    {columns : SealedColumns} {previousHash : Option (FixedBytes 32)}
    (appended : Appended library draft before after row columns previousHash)
    (serde : SerdeJson library) (representable : draft.Representable)
    (deep : ¬ Shallow draft) {checked : Nat}
    (valid : (verifyOrganizationChain library draft.organizationId).call before
      = (.ok (.valid checked), before)) :
    (verifyOrganizationChain library draft.organizationId).call after =
      (.error .json, after) := by
  have verified := (verified_of_call valid).1
  obtain ⟨isChain, fits⟩ := appended.linked verified.linked
  have unreadable : library.fromSlice columns.canonicalPayload = none := by
    rw [appended.payload]
    exact serde.fromSlice_eq_none representable deep
  have answered : verifyRows library 1 none 0
      (after.chain draft.organizationId) = .error .json := by
    rw [isChain]
    have behind := @Verified.verifyRows_append library _ [⟨row.id, columns⟩]
      (1, none) 0 verified
    rw [behind]
    exact verifyRows_cons_of_unreadable fits unreadable
  exact Prod.ext answered rfl

/-- An append that is accepted survives exactly when no JSON field of the
sanitized draft is nested too deeply. -/
theorem survives_iff_shallow (serde : SerdeJson library)
    (representable : draft.Representable) {id eventId : Uuid}
    {connection reached : Connection auditSql}
    (ended : (appendInTx library id draft).eval connection =
      (.ok eventId, reached)) :
    Survives library draft connection.working reached.working ↔
      Shallow draft := by
  obtain ⟨row, columns, previousHash, appended⟩ :=
    serde.appended representable ended
  constructor
  · exact appended.shallow serde representable
  · intro shallow
    exact appended.survives (serde.readsBack representable shallow)

end Serde

namespace Sample

/-- A number of arrays inside one another. -/
def nested : Nat → Value
  | 0 => .null
  | depth + 1 => .array [nested depth]

private theorem sanitizeJson_nested (depth : Nat) :
    sanitizeJson (nested depth) = nested depth := by
  induction depth with
  | zero => rfl
  | succ depth inductionHypothesis =>
      rw [sanitizeJson] at inductionHypothesis ⊢
      simp only [nested, Value.maskKeys, Value.maskList, inductionHypothesis]

private theorem nesting_nested
    (depth : Nat) : nesting (nested depth) = depth := by
  induction depth with
  | zero => rfl
  | succ depth inductionHypothesis =>
      simp only [nested, nesting, nestingElements, inductionHypothesis]
      omega

private theorem numbersFit_nested
    (depth : Nat) : NumbersFit (nested depth) := by
  induction depth with
  | zero => trivial
  | succ depth inductionHypothesis => exact ⟨inductionHypothesis, trivial⟩

private theorem keysAscend_nested
    (depth : Nat) : KeysAscend (nested depth) := by
  induction depth with
  | zero => trivial
  | succ depth inductionHypothesis => exact ⟨inductionHypothesis, trivial⟩

/-- The sample draft with a change that is nested too deeply. -/
def deepDraft : AuditEventDraft := { draft with after := some (nested 127) }

/-- The SHA-256 digest of its payload. -/
def deepDigest : FixedBytes 32 := ⟨[33, 66, 97, 180, 67, 129, 165, 241, 250,
  146, 209, 97, 189, 38, 65, 229, 215, 37, 46, 51, 202, 209, 226, 78, 120, 80,
  33, 43, 48, 226, 204, 142], by decide⟩

def deepLibrary : AuditLibrary := serdeLibrary fun _ => deepDigest

def afterDeep : AuditDb := ((append deepLibrary ⟨3⟩ deepDraft).call ⟨[]⟩).2

private theorem representable_after (requestId : String) {value : Value}
    (fits : NumbersFit value) (ascend : KeysAscend value) :
    AuditEventDraft.Representable
      { draftOf requestId with after := some value } where
  occurredAt := ⟨by simp [draftOf], by simp [draftOf]⟩
  duration := by
    intro duration present
    cases present
  numbers := by
    intro field present isPresent
    cases field with
    | before => cases isPresent
    | after =>
        cases isPresent
        exact fits
    | result =>
        cases isPresent
        exact ⟨trivial, trivial⟩
  maps := by
    intro field present isPresent
    cases field with
    | before => cases isPresent
    | after =>
        cases isPresent
        exact ascend
    | result =>
        cases isPresent
        exact ⟨by simp, trivial, trivial⟩

theorem representable_draft (requestId : String) :
    (draftOf requestId).Representable :=
  representable_after requestId ⟨trivial, trivial⟩ ⟨by simp, trivial, trivial⟩

private theorem representable_deepDraft : deepDraft.Representable :=
  representable_after "r-1" (numbersFit_nested 127) (keysAscend_nested 127)

theorem shallow_draft (requestId : String) : Shallow (draftOf requestId) := by
  have shallow : (draftOf "r-1").sanitize.NestedAtMost payloadDepth := by
    decide
  exact shallow

private theorem not_shallow_deepDraft : ¬ Shallow deepDraft := by
  intro shallow
  have deep := shallow .after (sanitizeJson (nested 127)) rfl
  rw [sanitizeJson_nested, nesting_nested] at deep
  revert deep
  decide

end Sample

theorem draft_survives :
    Survives (serdeLibrary fun _ => Sample.digest) Sample.draft ⟨[]⟩
      ((appendInTx (serdeLibrary fun _ => Sample.digest) ⟨3⟩
        Sample.draft).eval (.fresh ⟨[]⟩)).2.working := by
  have ended : (appendInTx (serdeLibrary fun _ => Sample.digest) ⟨3⟩
      Sample.draft).eval (.fresh ⟨[]⟩) = (.ok ⟨3⟩, _) :=
    Prod.ext (by decide) rfl
  exact (survives_iff_shallow (serdeJson_serdeLibrary _)
    (Sample.representable_draft "r-1") ended).mpr (Sample.shallow_draft "r-1")

/-- A draft with 127 arrays inside one another is accepted, and ends the
verification of its organization. -/
theorem deepDraft_not_survives :
    Sample.deepDraft.Representable ∧
    (append Sample.deepLibrary ⟨3⟩ Sample.deepDraft).call ⟨[]⟩ =
      (.ok ⟨3⟩, Sample.afterDeep) ∧
    (verifyOrganizationChain Sample.deepLibrary Sample.organizationId).call
      ⟨[]⟩ = (.ok (.valid 0), ⟨[]⟩) ∧
    (verifyOrganizationChain Sample.deepLibrary Sample.organizationId).call
      Sample.afterDeep = (.error .json, Sample.afterDeep) ∧
    ¬ Survives Sample.deepLibrary Sample.deepDraft ⟨[]⟩ Sample.afterDeep := by
  have serde : SerdeJson Sample.deepLibrary := serdeJson_serdeLibrary _
  have ended : (append Sample.deepLibrary ⟨3⟩ Sample.deepDraft).call ⟨[]⟩ =
      (.ok ⟨3⟩, Sample.afterDeep) :=
    Prod.ext (by decide) rfl
  obtain ⟨reached, inTx, isAfter⟩ := exists_eval_of_call_append ended
  obtain ⟨row, columns, previousHash, appended⟩ :=
    serde.appended Sample.representable_deepDraft inTx
  rw [isAfter] at appended
  have valid : (verifyOrganizationChain Sample.deepLibrary
      Sample.organizationId).call ⟨[]⟩ = (.ok (.valid 0), ⟨[]⟩) := rfl
  refine ⟨Sample.representable_deepDraft, ended, valid, ?_, fun survives => ?_⟩
  · exact appended.call_eq_error serde Sample.representable_deepDraft
      Sample.not_shallow_deepDraft valid
  · exact Sample.not_shallow_deepDraft
      (appended.shallow serde Sample.representable_deepDraft survives)

end NetworkManager.AuditStore
