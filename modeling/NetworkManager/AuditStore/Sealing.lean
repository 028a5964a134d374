import NetworkManager.AuditStore.Tampering
import NetworkManager.Transaction.Preserving

/-!
# Tables with sealed rows only

If every row that is inserted is sealed, in the position after the rows of its
organization, then a verification counts the inserted rows, and whoever knows
the last hash notices any change to one of them.  An append that runs alone
keeps it that way.
-/

namespace NetworkManager.AuditStore

open NetworkManager.Foundation
open NetworkManager.Security
open NetworkManager.Transaction

/-- The rows behind those of `first` are sealed, and the chains are linked. -/
structure SealedSince (library : AuditLibrary) (first db : AuditDb) :
    Prop where
  rows : ∃ inserted, db.rows = first.rows ++ inserted ∧
    ∀ row ∈ inserted, row.sealedColumns ≠ none
  linked : ChainsLinked library db

/-- Every row inserted behind those of `first` is sealed, the verification of an
organization checks exactly those of the organization, and no other chain that
is valid and ends in the same hash has other sealed columns. -/
structure EveryWriteSealed (library : AuditLibrary) (first db : AuditDb) :
    Prop where
  counted : ∃ inserted, db.rows = first.rows ++ inserted ∧
    (∀ row ∈ inserted, row.sealedColumns ≠ none) ∧
    ∀ organizationId,
      (verifyOrganizationChain library organizationId).call db =
        (.ok (.valid (inserted.countP fun row =>
          row.organizationId = organizationId)), db)
  detected : ∀ (organizationId : Uuid) (other : AuditDb) (checked : Nat),
    NoCollision library
      (db.chain organizationId ++ other.chain organizationId) →
    (verifyOrganizationChain library organizationId).call other =
      (.ok (.valid checked), other) →
    (db.chain organizationId).getLast?.map (fun row => row.columns.eventHash) =
      (other.chain organizationId).getLast?.map
        (fun row => row.columns.eventHash) →
    (db.chain organizationId).map ChainRow.columns =
      (other.chain organizationId).map ChainRow.columns

section Sealing

variable {library : AuditLibrary} {first : AuditDb}

theorem Unsealed.sealedSince (unsealed : Unsealed first) :
    SealedSince library first first where
  rows := ⟨[], by simp⟩
  linked := unsealed.chainsLinked

/-- A sealed row goes behind the others, where it belongs in its chain. -/
theorem SealedSince.insert {db : AuditDb} {row : AuditRow}
    {columns : SealedColumns} (kept : SealedSince library first db)
    (isSealed : row.sealedColumns = some columns)
    (fits : Fits library
      ((db.entries row.organizationId).foldl (advance library) (1, none))
      ⟨row.id, columns⟩) :
    SealedSince library first ⟨db.rows ++ [row]⟩ := by
  obtain ⟨inserted, rows, allSealed⟩ := kept.rows
  constructor
  case rows =>
    refine ⟨inserted ++ [row], by simp [rows], ?_⟩
    intro other member
    rcases List.mem_append.mp member with old | new
    · exact allSealed other old
    · rw [List.mem_singleton.mp new, isSealed]
      exact Option.some_ne_none columns
  case linked => exact kept.linked.insert isSealed fits

/-- An append that runs alone inserts one sealed row, or none. -/
theorem preserves_appendInTx (id : Uuid) (draft : AuditEventDraft)
    {working : AuditDb} (kept : SealedSince library first working) :
    (appendInTx library id draft).Preserves (SealedSince library first)
      working := by
  apply Program.Preserves.ofExcept_bind kept
  intro _ _
  refine .statement_bind fun _ _ answered => ?_
  cases answered
  rw [Database.applyAll_nil]
  refine .statement_bind fun _ _ answered => ?_
  cases answered
  rw [Database.applyAll_nil]
  apply Program.Preserves.ofExcept_bind kept
  rintro ⟨chainSequence, previousHash⟩ next
  apply Program.Preserves.ofExcept_bind kept
  intro sealedEvent isSealed
  apply Program.Preserves.ofExcept_bind kept
  intro payload encoded
  obtain ⟨columns, hasColumns, ofOrganization, _, fits⟩ :=
    @exists_sealedRow library id draft chainSequence previousHash sealedEvent
      payload isSealed encoded
  refine .statement_bind fun _ _ answered => ?_
  rw [execInsertEvent_eq_ok answered]
  refine .done (kept.insert hasColumns ?_)
  rw [kept.linked.chain_eq] at next
  rw [ofOrganization, ← (kept.linked _).nextChainPosition_eq next]
  exact fits

/-- Where all rows are sealed, the chain of an organization has all of its
rows. -/
theorem length_entries (unsealed : Unsealed first) {db : AuditDb}
    {inserted : List AuditRow} (rows : db.rows = first.rows ++ inserted)
    (allSealed : ∀ row ∈ inserted, row.sealedColumns ≠ none)
    (organizationId : Uuid) :
    (db.entries organizationId).length =
      inserted.countP fun row => row.organizationId = organizationId := by
  have before : first.rows.filterMap (chainRow organizationId) = [] :=
    unsealed.entries_eq organizationId
  rw [AuditDb.entries, rows, List.filterMap_append, before, List.nil_append]
  clear rows
  induction inserted with
  | nil => rfl
  | cons row rest inductionHypothesis =>
      have later := inductionHypothesis fun other member =>
        allSealed other (List.mem_cons_of_mem row member)
      have isSealed := allSealed row (List.mem_cons_self ..)
      obtain ⟨columns, hasColumns⟩ := Option.ne_none_iff_exists'.mp isSealed
      by_cases same : row.organizationId = organizationId
      · simp [chainRow, same, hasColumns, later]
      · simp [chainRow, same, later]

/-- Sealed rows whose payloads can be read back are all that is counted. -/
theorem SealedSince.everyWriteSealed {db : AuditDb} (unsealed : Unsealed first)
    (kept : SealedSince library first db)
    (writes : WritesOrganizationFirst library)
    (readsBack : ∀ row ∈ db.rows, ∀ columns,
      row.sealedColumns = some columns →
        ReadsBack library columns.canonicalPayload) :
    EveryWriteSealed library first db := by
  have verified : ∀ organizationId,
      Verified library (1, none) (db.chain organizationId) := by
    intro organizationId
    rw [kept.linked.chain_eq]
    apply (kept.linked organizationId).verified
    intro row member
    obtain ⟨stored, isStored, isRow⟩ := List.mem_filterMap.mp member
    rw [chainRow] at isRow
    split_ifs at isRow
    obtain ⟨columns, hasColumns, rfl⟩ := Option.map_eq_some_iff.mp isRow
    exact readsBack stored isStored columns hasColumns
  constructor
  case counted =>
    obtain ⟨inserted, rows, allSealed⟩ := kept.rows
    refine ⟨inserted, rows, allSealed, fun organizationId => ?_⟩
    apply call_of_verified (verified organizationId)
    rw [kept.linked.chain_eq, length_entries unsealed rows allSealed]
  case detected =>
    intro organizationId other checked noCollision valid sameHash
    exact Verified.columns_eq writes noCollision (verified organizationId)
      (verified_of_call valid).1 sameHash

end Sealing

end NetworkManager.AuditStore
