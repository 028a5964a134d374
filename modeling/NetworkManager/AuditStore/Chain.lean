import NetworkManager.AuditStore.Store
import NetworkManager.Transaction.Outcomes

/-!
# The integrity of the audit chains

The rows of an organization, in the order in which they were committed, carry
the sequence numbers from 1 on, each with the hash of the row before it.  The
advisory lock makes the position that an append has read still the last one
when the append commits, so this holds in every interleaving of transactions;
and the verification accepts every such chain.
-/

namespace NetworkManager.AuditStore

open NetworkManager.Foundation
open NetworkManager.Security
open NetworkManager.Transaction

section Linked

variable {library : AuditLibrary}

/-- The position after a row. -/
def advance (library : AuditLibrary) (position : Int × Option (FixedBytes 32))
    (row : ChainRow) : Int × Option (FixedBytes 32) :=
  (position.1 + 1,
    some (hashEvent library row.columns.canonicalPayload position.2))

/-- The row belongs at a position. -/
structure Fits (library : AuditLibrary)
    (position : Int × Option (FixedBytes 32)) (row : ChainRow) : Prop where
  chainSequence : row.columns.chainSequence = position.1
  previousHash : row.columns.previousHash = position.2.map FixedBytes.bytes
  eventHash : row.columns.eventHash =
    (hashEvent library row.columns.canonicalPayload position.2).bytes

/-- Each row belongs at the position after the rows before it. -/
def Linked (library : AuditLibrary) :
    Int × Option (FixedBytes 32) → List ChainRow → Prop
  | _, [] => True
  | position, row :: rest =>
      Fits library position row ∧
        Linked library (advance library position row) rest

theorem linked_append (position : Int × Option (FixedBytes 32))
    (row : ChainRow) (rows : List ChainRow) :
    Linked library position (rows ++ [row]) ↔
      Linked library position rows ∧
        Fits library (rows.foldl (advance library) position) row := by
  induction rows generalizing position with
  | nil => simp [Linked]
  | cons first rest inductionHypothesis =>
      rw [List.cons_append, Linked, Linked, inductionHypothesis, and_assoc]
      rfl

/-- Linked rows are in the order of their sequence numbers. -/
theorem Linked.sequences :
    ∀ {rows : List ChainRow} {position : Int × Option (FixedBytes 32)},
      Linked library position rows →
      rows.map (fun row => row.columns.chainSequence) =
        (List.range rows.length).map
          fun offset : Nat => position.1 + (offset : Int)
  | [], _, _ => rfl
  | row :: rest, position, linked => by
      rw [List.map_cons, linked.2.sequences, linked.1.chainSequence,
        List.length_cons, List.range_succ_eq_map, List.map_cons, List.map_map]
      congr 1
      · simp
      · apply List.map_congr_left
        intro offset _
        simp only [advance, Function.comp_apply, Nat.succ_eq_add_one]
        omega

private theorem Linked.le_chainSequence :
    ∀ {rows : List ChainRow} {position : Int × Option (FixedBytes 32)},
      Linked library position rows →
      ∀ row ∈ rows, position.1 ≤ row.columns.chainSequence
  | first :: rest, position, linked, row, member => by
      rcases List.mem_cons.mp member with rfl | later
      · exact linked.1.chainSequence.ge
      · have after := linked.2.le_chainSequence row later
        simp only [advance] at after
        omega

/-- The sequence numbers of linked rows rise. -/
theorem Linked.ascending :
    ∀ {rows : List ChainRow} {position : Int × Option (FixedBytes 32)},
      Linked library position rows →
      rows.Pairwise fun earlier later =>
        earlier.columns.chainSequence < later.columns.chainSequence
  | [], _, _ => .nil
  | row :: rest, position, linked => by
      refine List.pairwise_cons.mpr ⟨?_, linked.2.ascending⟩
      intro later member
      have after := linked.2.le_chainSequence later member
      have here := linked.1.chainSequence
      simp only [advance] at after
      omega

private theorem Linked.sorted {rows : List ChainRow}
    {position : Int × Option (FixedBytes 32)}
    (linked : Linked library position rows) : rows.Pairwise ChainRow.before :=
  linked.ascending.imp fun rising => Int.le_of_lt rising

/-- No two of them are at one position. -/
theorem Linked.eq_of_chainSequence_eq {rows : List ChainRow}
    {position : Int × Option (FixedBytes 32)}
    (linked : Linked library position rows) :
    ∀ first ∈ rows, ∀ second ∈ rows,
      first.columns.chainSequence = second.columns.chainSequence →
        first = second := by
  apply List.Pairwise.forall_of_forall_of_flip
  · intro row _ _
    rfl
  · refine linked.ascending.imp fun rising same => ?_
    omega
  · refine linked.ascending.imp fun rising same => ?_
    omega

private theorem Linked.previousHash_succ :
    ∀ {rows : List ChainRow} {position : Int × Option (FixedBytes 32)},
      Linked library position rows →
      ∀ (index : Nat) (row next : ChainRow), rows[index]? = some row →
        rows[index + 1]? = some next →
        next.columns.previousHash = some row.columns.eventHash
  | [], _, _, index, row, next, found, _ => by simp at found
  | [first], _, _, index, row, next, _, nextFound => by simp at nextFound
  | first :: second :: rest, position, linked, 0, row, next, found,
      nextFound => by
      simp only [List.getElem?_cons_zero, Option.some.injEq] at found
      simp only [Nat.zero_add, List.getElem?_cons_succ,
        List.getElem?_cons_zero, Option.some.injEq] at nextFound
      subst found
      subst nextFound
      rw [linked.2.1.previousHash, linked.1.eventHash]
      rfl
  | first :: second :: rest, position, linked, index + 1, row, next, found,
      nextFound =>
      linked.2.previousHash_succ index row next found nextFound

/-- What the append reads from the last row is the position after the rows. -/
theorem Linked.nextChainPosition_eq {rows : List ChainRow}
    {found : Int × Option (FixedBytes 32)}
    (linked : Linked library (1, none) rows)
    (next : nextChainPosition (rows.getLast?.map ChainRow.columns) =
      .ok found) :
    found = rows.foldl (advance library) (1, none) := by
  induction rows using List.reverseRecOn with
  | nil => exact (Except.ok.inj next).symm
  | append_singleton rest last _ =>
      have fits := ((linked_append (1, none) last rest).mp linked).2
      have read : fixed last.columns.eventHash =
          .ok (hashEvent library last.columns.canonicalPayload
            (rest.foldl (advance library) (1, none)).2) := by
        rw [fits.eventHash, fixed, FixedBytes.tryFrom_bytes]
      rw [List.getLast?_append, List.getLast?_singleton, Option.some_or,
        Option.map_some, nextChainPosition, read] at next
      rw [List.foldl_append, List.foldl_cons, List.foldl_nil, advance,
        ← fits.chainSequence]
      by_cases tooLong : maxBigint < last.columns.chainSequence + 1
      · simp [bind, Except.bind, tooLong] at next
      · simpa [bind, Except.bind, tooLong] using next.symm

/-- A payload decodes to an event that seals to the hash of the payload. -/
def Reseals (library : AuditLibrary) (previous : Option (FixedBytes 32))
    (payload : Bytes) : Prop :=
  ∃ event encoded, library.fromSlice payload = some event ∧
    library.toVec event.sanitize = some encoded ∧
    hashEvent library encoded previous = hashEvent library payload previous

/-- Each row belongs at the position after the rows before it and reseals
there. -/
def Verified (library : AuditLibrary) :
    Int × Option (FixedBytes 32) → List ChainRow → Prop
  | _, [] => True
  | position, row :: rest =>
      Fits library position row ∧
        Reseals library position.2 row.columns.canonicalPayload ∧
          Verified library (advance library position row) rest

theorem Verified.linked :
    ∀ {rows : List ChainRow} {position : Int × Option (FixedBytes 32)},
      Verified library position rows → Linked library position rows
  | [], _, _ => trivial
  | _ :: _, _, verified => ⟨verified.1, verified.2.2.linked⟩

theorem verified_append (position : Int × Option (FixedBytes 32))
    (row : ChainRow) (rows : List ChainRow) :
    Verified library position (rows ++ [row]) ↔
      Verified library position rows ∧
        Fits library (rows.foldl (advance library) position) row ∧
        Reseals library (rows.foldl (advance library) position).2
          row.columns.canonicalPayload := by
  induction rows generalizing position with
  | nil => simp [Verified]
  | cons first rest inductionHypothesis =>
      rw [List.cons_append, Verified, Verified, inductionHypothesis, and_assoc,
        and_assoc]
      rfl

@[simp]
theorem fixed_bytes (hash : FixedBytes 32) : fixed hash.bytes = .ok hash := by
  rw [fixed, FixedBytes.tryFrom_bytes]

private theorem fixed_eq_ok {value : Bytes} {hash : FixedBytes 32}
    (read : fixed value = .ok hash) : value = hash.bytes := by
  by_cases sized : value.length = 32
  · simp only [fixed, FixedBytes.tryFrom, dif_pos sized,
      Except.ok.injEq] at read
    rw [← read]
  · simp [fixed, FixedBytes.tryFrom, dif_neg sized] at read

@[simp]
theorem optionalFixed_map_bytes (hash : Option (FixedBytes 32)) :
    optionalFixed (hash.map FixedBytes.bytes) = .ok hash := by
  cases hash with
  | none => rfl
  | some hash => simp [optionalFixed, Except.map]

private theorem optionalFixed_eq_ok {value : Option Bytes}
    {hash : Option (FixedBytes 32)} (read : optionalFixed value = .ok hash) :
    value = hash.map FixedBytes.bytes := by
  cases value with
  | none => cases read; rfl
  | some value =>
      cases outcome : fixed value with
      | error failure => simp [optionalFixed, outcome, Except.map] at read
      | ok found =>
          have isFound : some found = hash := by
            simpa [optionalFixed, outcome, Except.map] using read
          rw [← isFound, fixed_eq_ok outcome]
          rfl

/-- The loop of the verification goes on behind a row that passes. -/
theorem verifyRows_cons_of_passed {row : ChainRow} {rest : List ChainRow}
    {position : Int × Option (FixedBytes 32)} {checked : Nat}
    (fits : Fits library position row)
    (reseals : Reseals library position.2 row.columns.canonicalPayload) :
    verifyRows library position.1 position.2 checked (row :: rest) =
      verifyRows library (advance library position row).1
        (advance library position row).2 (checked + 1) rest := by
  obtain ⟨event, encoded, parsed, encodes, sameHash⟩ := reseals
  have verified :=
    SealedAuditEvent.verify_eq_ok_true_iff.mpr ⟨encoded, encodes, sameHash⟩
  rw [verifyRows, if_neg (not_not_intro fits.chainSequence),
    fits.previousHash, fits.eventHash, optionalFixed_map_bytes, fixed_bytes]
  simp only [bind, Except.bind, ne_eq, not_true_eq_false, if_false, parsed,
    verified, Except.mapError, Bool.not_true, Bool.false_eq_true]
  rfl

/-- It goes on behind no other. -/
theorem verifyRows_cons_eq_valid_iff {row : ChainRow} {rest : List ChainRow}
    {position : Int × Option (FixedBytes 32)} {checked count : Nat} :
    verifyRows library position.1 position.2 checked (row :: rest) =
        .ok (.valid count) ↔
      Fits library position row ∧
        Reseals library position.2 row.columns.canonicalPayload ∧
        verifyRows library (advance library position row).1
          (advance library position row).2 (checked + 1) rest =
            .ok (.valid count) := by
  constructor
  · intro valid
    rw [verifyRows] at valid
    split_ifs at valid with notNext
    · cases valid
    have isNext : row.columns.chainSequence = position.1 :=
      not_not.mp notNext
    cases readPrevious : optionalFixed row.columns.previousHash with
    | error failure => simp [readPrevious, bind, Except.bind] at valid
    | ok storedPrevious =>
    cases readHash : fixed row.columns.eventHash with
    | error failure => simp [readPrevious, readHash, bind, Except.bind] at valid
    | ok eventHash =>
    simp only [readPrevious, readHash, bind, Except.bind] at valid
    split_ifs at valid with notPrevious notHash
    · cases valid
    · cases valid
    have isPrevious : storedPrevious = position.2 := not_not.mp notPrevious
    have isHash := not_not.mp notHash
    cases parsed : library.fromSlice row.columns.canonicalPayload with
    | none => simp [parsed] at valid
    | some event =>
    cases verified : SealedAuditEvent.verify library
        ⟨event, storedPrevious, eventHash⟩ with
    | error failure => simp [parsed, verified, Except.mapError] at valid
    | ok isVerified =>
    cases isVerified with
    | false => simp [parsed, verified, Except.mapError] at valid
    | true =>
    rcases SealedAuditEvent.verify_eq_ok_true_iff.mp verified with
      ⟨encoded, encodes, sameHash⟩
    simp only [parsed, verified, Except.mapError, Bool.not_true,
      Bool.false_eq_true, if_false] at valid
    subst isPrevious
    refine ⟨⟨isNext, optionalFixed_eq_ok readPrevious, ?_⟩,
      ⟨event, encoded, parsed, encodes, sameHash.trans isHash.symm⟩, ?_⟩
    · rw [isHash, fixed_eq_ok readHash]
    · rw [advance, isHash]
      exact valid
  · rintro ⟨fits, reseals, later⟩
    rw [verifyRows_cons_of_passed fits reseals]
    exact later

/-- The verification answers `Valid` for exactly these rows. -/
theorem verifyRows_eq_valid_iff {rows : List ChainRow}
    {position : Int × Option (FixedBytes 32)} {checked count : Nat} :
    verifyRows library position.1 position.2 checked rows =
        .ok (.valid count) ↔
      Verified library position rows ∧ count = checked + rows.length := by
  induction rows generalizing position checked with
  | nil =>
      simp only [verifyRows, Verified, true_and, List.length_nil,
        Nat.add_zero, Except.ok.injEq, AuditVerification.valid.injEq]
      exact eq_comm
  | cons row rest inductionHypothesis =>
      rw [verifyRows_cons_eq_valid_iff, inductionHypothesis, Verified,
        List.length_cons, and_assoc, and_assoc, Nat.add_right_comm,
        Nat.add_assoc]

/-- Parsing a payload and encoding what was parsed gives the payload again. -/
def ReadsBack (library : AuditLibrary) (payload : Bytes) : Prop :=
  ∃ event, library.fromSlice payload = some event ∧
    library.toVec event.sanitize = some payload

theorem ReadsBack.reseals {payload : Bytes}
    (readsBack : ReadsBack library payload)
    (previous : Option (FixedBytes 32)) :
    Reseals library previous payload := by
  obtain ⟨event, parsed, encoded⟩ := readsBack
  exact ⟨event, payload, parsed, encoded, rfl⟩

theorem Linked.verified :
    ∀ {rows : List ChainRow} {position : Int × Option (FixedBytes 32)},
      Linked library position rows →
      (∀ row ∈ rows, ReadsBack library row.columns.canonicalPayload) →
      Verified library position rows
  | [], _, _, _ => trivial
  | row :: _, position, linked, readsBack =>
      ⟨linked.1, (readsBack row (List.mem_cons_self ..)).reseals position.2,
        linked.2.verified fun other member =>
          readsBack other (List.mem_cons_of_mem row member)⟩

/-- The rows in front of some others have been verified. -/
theorem Verified.verifyRows_append {rows more : List ChainRow}
    {position : Int × Option (FixedBytes 32)} {checked : Nat}
    (verified : Verified library position rows) :
    verifyRows library position.1 position.2 checked (rows ++ more) =
      verifyRows library (rows.foldl (advance library) position).1
        (rows.foldl (advance library) position).2 (checked + rows.length)
        more := by
  induction rows generalizing position checked with
  | nil => rfl
  | cons row rest inductionHypothesis =>
      rw [List.cons_append, verifyRows_cons_of_passed verified.1 verified.2.1,
        inductionHypothesis verified.2.2, List.foldl_cons, List.length_cons,
        Nat.add_right_comm, Nat.add_assoc]

theorem verified_of_call {organizationId : Uuid}
    {db : AuditDb} {checked : Nat}
    (valid : (verifyOrganizationChain library organizationId).call db =
      (.ok (.valid checked), db)) :
    Verified library (1, none) (db.chain organizationId) ∧
      checked = (db.chain organizationId).length := by
  have answered : verifyRows library 1 none 0 (db.chain organizationId) =
      .ok (.valid checked) :=
    congrArg Prod.fst valid
  have verified := (@verifyRows_eq_valid_iff library _ (1, none) _ _).mp answered
  exact ⟨verified.1, by omega⟩

theorem call_of_verified {organizationId : Uuid} {db : AuditDb}
    {checked : Nat}
    (verified : Verified library (1, none) (db.chain organizationId))
    (isLength : checked = (db.chain organizationId).length) :
    (verifyOrganizationChain library organizationId).call db =
      (.ok (.valid checked), db) := by
  have answered := (@verifyRows_eq_valid_iff library _ (1, none) 0 checked).mpr
    ⟨verified, by omega⟩
  exact Prod.ext answered rfl

end Linked

/-! ## Locks -/

/-- The advisory lock of a chain is a hash of the text of its organization, so
two chains may share one.  An insertion waits for another session that has
inserted the same value into a unique index. -/
inductive LockKey where
  | advisory (hash : Int)
  | rowId (id : Uuid)
  | eventHash (eventHash : Bytes)
  | chainSequence (organizationId : Uuid) (chainSequence : Int)

section Locks

-- `hashtextextended(text, 0)`.
variable (hashText : String → Int)

/-- The rows that a lock guards. -/
def LockKey.guards : LockKey → AuditRow → Bool
  | .advisory hash, row => hashText row.organizationId.text == hash
  | .rowId id, row => row.id == id
  | .eventHash wanted, row => row.hasEventHash wanted
  | .chainSequence organizationId wanted, row =>
      row.hasChainSequence organizationId wanted

def acquires : Statement → AuditDb → List LockKey
  | .lockOrganizationChain organizationId, _ =>
      [.advisory (hashText organizationId.text)]
  | .insertEvent row, _ =>
      .rowId row.id :: row.sealedColumns.toList.flatMap fun columns =>
        [.eventHash columns.eventHash,
          .chainSequence row.organizationId columns.chainSequence]
  | _, _ => []

abbrev auditLocking : Locking auditSql where
  Key := LockKey
  acquires := AuditStore.acquires hashText
  Slice _ := List AuditRow
  slice key db := db.rows.filter (key.guards hashText)
  touches row key := key.guards hashText row = true
  slice_apply := by
    intro key row db untouched
    simp [List.filter_append, untouched]
  slice_apply_congr := by
    intro key row left right same
    simp [List.filter_append, same]

variable {hashText}

/-- A sealed row is inserted under the locks of its indexes and its chain. -/
theorem covers_insert {row : AuditRow} {held : List LockKey} {db : AuditDb}
    (locked : .advisory (hashText row.organizationId.text) ∈ held) :
    (auditLocking hashText).Covers
      (held ++ (auditLocking hashText).acquires (.insertEvent row) db)
      [row] := by
  intro written member key guards
  rw [List.mem_singleton] at member
  subst member
  rw [List.mem_append]
  cases key with
  | advisory hash =>
      have same : hashText written.organizationId.text = hash := by
        simpa [auditLocking, LockKey.guards] using guards
      exact Or.inl (same ▸ locked)
  | rowId id =>
      have same : written.id = id := by
        simpa [auditLocking, LockKey.guards] using guards
      exact Or.inr (same ▸ List.mem_cons_self ..)
  | eventHash eventHash =>
      right
      cases shape : written.sealedColumns with
      | none =>
          simp [LockKey.guards, AuditRow.hasEventHash, shape] at guards
      | some columns =>
          have same : columns.eventHash = eventHash := by
            simpa [auditLocking, LockKey.guards, AuditRow.hasEventHash,
              shape] using guards
          simp [auditLocking, acquires, shape, same]
  | chainSequence organizationId chainSequence =>
      right
      cases shape : written.sealedColumns with
      | none =>
          simp [LockKey.guards, AuditRow.hasChainSequence, shape] at guards
      | some columns =>
          have same : written.organizationId = organizationId ∧
              columns.chainSequence = chainSequence := by
            simpa [auditLocking, LockKey.guards, AuditRow.hasChainSequence,
              shape] using guards
          simp [auditLocking, acquires, shape, same]

/-- The rows of a chain in the order of their insertion. -/
def AuditDb.entries (db : AuditDb) (organizationId : Uuid) : List ChainRow :=
  db.rows.filterMap (chainRow organizationId)

/-- The advisory lock guards the whole chain. -/
theorem chain_eq_of_agree {organizationId : Uuid} {held : List LockKey}
    {left right : AuditDb}
    (agree : (auditLocking hashText).Agree held left right)
    (locked : .advisory (hashText organizationId.text) ∈ held) :
    left.chain organizationId = right.chain organizationId := by
  have inSlice : ∀ db : AuditDb, db.rows.filterMap (chainRow organizationId) =
      (db.rows.filter
        (LockKey.guards hashText (.advisory (hashText organizationId.text)))
          ).filterMap (chainRow organizationId) := by
    intro db
    rw [List.filterMap_filter]
    apply List.filterMap_congr
    intro row _
    by_cases same : row.organizationId = organizationId
    · simp [LockKey.guards, same]
    · simp [chainRow, same]
  have sameSlice := agree _ locked
  simp only [auditLocking] at sameSlice
  rw [AuditDb.chain, AuditDb.chain, inSlice left, inSlice right, sameSlice]

end Locks

/-- The arguments of an append. -/
structure Append where
  id : Uuid
  draft : AuditEventDraft

section Appends

variable {library : AuditLibrary} {hashText : String → Int}

/-- The row that an append leaves. -/
structure Records (library : AuditLibrary) (row : AuditRow)
    (append : Append) : Prop where
  organizationId : row.organizationId = append.draft.organizationId
  payload : ∃ columns, row.sealedColumns = some columns ∧
    library.toVec append.draft.sanitize = some columns.canonicalPayload

/-- The rows of some appends, behind the rows that were there. -/
inductive Extends (library : AuditLibrary) :
    List Append → AuditDb → AuditDb → Prop
  | nil (db : AuditDb) : Extends library [] db db
  | cons {append : Append} {rest : List Append} {row : AuditRow}
      {db reached : AuditDb} :
      Records library row append →
      Extends library rest ⟨db.rows ++ [row]⟩ reached →
      Extends library (append :: rest) db reached

/-- The row is the one that an append builds at some position. -/
def Built (library : AuditLibrary) (row : AuditRow) (append : Append) : Prop :=
  ∃ chainSequence payload sealedEvent,
    row = sealedRow append.id chainSequence payload sealedEvent ∧
    sealedEvent.event = append.draft.sanitize ∧
    library.toVec append.draft.sanitize = some payload

private theorem Built.records {row : AuditRow} {append : Append}
    (built : Built library row append) : Records library row append := by
  obtain ⟨chainSequence, payload, sealedEvent, rfl, isEvent, encoded⟩ := built
  constructor
  case organizationId =>
    have sameOrganization := congrArg AuditEventDraft.organizationId isEvent
    exact sameOrganization
  case payload => exact ⟨_, rfl, encoded⟩

/-- The rows that some appends build, behind the rows that were there. -/
inductive Wrote (library : AuditLibrary) :
    List Append → AuditDb → AuditDb → Prop
  | nil (db : AuditDb) : Wrote library [] db db
  | cons {append : Append} {rest : List Append} {row : AuditRow}
      {db reached : AuditDb} :
      Built library row append →
      Wrote library rest ⟨db.rows ++ [row]⟩ reached →
      Wrote library (append :: rest) db reached

private theorem Wrote.extends {appends : List Append} {before after : AuditDb}
    (wrote : Wrote library appends before after) :
    Extends library appends before after := by
  induction wrote with
  | nil db => exact .nil db
  | cons built _ inductionHypothesis =>
      exact .cons built.records inductionHypothesis

/-- The rows of every organization are linked. -/
def ChainsLinked (library : AuditLibrary) (db : AuditDb) : Prop :=
  ∀ organizationId, Linked library (1, none) (db.entries organizationId)

theorem ChainsLinked.chain_eq {db : AuditDb} (linked : ChainsLinked library db)
    (organizationId : Uuid) :
    db.chain organizationId = db.entries organizationId :=
  (linked organizationId).sorted.insertionSort_eq

instance : Std.Total ChainRow.before :=
  ⟨fun _ _ => Int.le_total _ _⟩

instance : IsTrans ChainRow ChainRow.before :=
  ⟨fun _ _ _ => Int.le_trans⟩

/-- A row that fits after a linked chain comes last in it. -/
theorem chain_append {db : AuditDb} {row : AuditRow} {columns : SealedColumns}
    (linked : Linked library (1, none) (db.chain row.organizationId))
    (isSealed : row.sealedColumns = some columns)
    (fits : Fits library
      ((db.chain row.organizationId).foldl (advance library) (1, none))
      ⟨row.id, columns⟩) :
    AuditDb.chain ⟨db.rows ++ [row]⟩ row.organizationId =
      db.chain row.organizationId ++ [⟨row.id, columns⟩] := by
  have allLinked := (linked_append _ _ _).mpr ⟨linked, fits⟩
  have entries : (db.rows ++ [row]).filterMap (chainRow row.organizationId) =
      db.rows.filterMap (chainRow row.organizationId) ++
        [⟨row.id, columns⟩] := by
    simp [chainRow, isSealed]
  have sameRows : (AuditDb.chain ⟨db.rows ++ [row]⟩ row.organizationId).Perm
      (db.chain row.organizationId ++ [⟨row.id, columns⟩]) := by
    rw [AuditDb.chain, entries]
    refine (List.perm_insertionSort _ _).trans ?_
    exact (List.perm_insertionSort _ _).symm.append_right _
  refine sameRows.eq_of_pairwise ?_ (List.pairwise_insertionSort _ _)
    allLinked.sorted
  intro first second isFirst isSecond before after
  exact allLinked.eq_of_chainSequence_eq first (sameRows.subset isFirst) second
    isSecond (Int.le_antisymm before after)

theorem execInsertEvent_eq_ok {row : AuditRow} {db : AuditDb} {reply : Unit}
    {writes : List AuditRow}
    (inserted : execInsertEvent row db = .ok (reply, writes)) :
    writes = [row] := by
  unfold execInsertEvent at inserted
  split at inserted
  · cases inserted
  split at inserted
  · cases inserted
  split at inserted
  · cases inserted
    rfl
  · split_ifs at inserted
    cases inserted
    rfl

/-- A row that belongs after the rows of its organization. -/
theorem ChainsLinked.insert {db : AuditDb} {row : AuditRow}
    {columns : SealedColumns} (linked : ChainsLinked library db)
    (isSealed : row.sealedColumns = some columns)
    (fits : Fits library
      ((db.entries row.organizationId).foldl (advance library) (1, none))
      ⟨row.id, columns⟩) :
    ChainsLinked library ⟨db.rows ++ [row]⟩ := by
  intro organizationId
  rw [AuditDb.entries, List.filterMap_append]
  by_cases same : row.organizationId = organizationId
  · subst same
    have added : [row].filterMap (chainRow row.organizationId) =
        [⟨row.id, columns⟩] := by
      simp [chainRow, isSealed]
    rw [added]
    exact (linked_append _ _ _).mpr ⟨linked row.organizationId, fits⟩
  · have notAdded : [row].filterMap (chainRow organizationId) = [] := by
      simp [chainRow, same]
    rw [notAdded, List.append_nil]
    exact linked organizationId

theorem sealDraft_eq_ok {draft : AuditEventDraft}
    {previousHash : Option (FixedBytes 32)} {sealedEvent : SealedAuditEvent}
    (isSealed : sealDraft library draft previousHash = .ok sealedEvent) :
    draft.seal library previousHash = .ok sealedEvent := by
  cases outcome : draft.seal library previousHash with
  | error failure =>
      simp [sealDraft, outcome, Except.mapError] at isSealed
  | ok event =>
      simpa [sealDraft, outcome, Except.mapError] using isSealed

/-- The row that an append builds for a position. -/
theorem exists_sealedRow {id : Uuid} {draft : AuditEventDraft}
    {chainSequence : Int} {previousHash : Option (FixedBytes 32)}
    {sealedEvent : SealedAuditEvent} {payload : Bytes}
    (isSealed : sealDraft library draft previousHash = .ok sealedEvent)
    (encoded : toVec library sealedEvent.event = .ok payload) :
    ∃ columns,
      (sealedRow id chainSequence payload sealedEvent).sealedColumns =
        some columns ∧
      (sealedRow id chainSequence payload sealedEvent).organizationId =
        draft.organizationId ∧
      library.toVec draft.sanitize = some columns.canonicalPayload ∧
      Fits library (chainSequence, previousHash) ⟨id, columns⟩ := by
  obtain ⟨hashed, payloadHashed, rfl⟩ :=
    AuditEventDraft.seal_eq_ok_iff.mp (sealDraft_eq_ok isSealed)
  have samePayload : hashed = payload := by
    simpa [toVec, payloadHashed] using encoded
  subst samePayload
  exact ⟨_, rfl, rfl, payloadHashed, rfl, rfl, rfl⟩

/-- An append under the lock of its chain. -/
theorem locked_appendInTx (append : Append) {held : List LockKey}
    {working : AuditDb} (linked : ChainsLinked library working) :
    (appendInTx library append.id append.draft).Locked
      (auditLocking hashText)
      (fun outcome _ reached => outcome.isOk → ChainsLinked library reached ∧
        Wrote library [append] working reached)
      (fun _ _ => False) held working := by
  obtain ⟨id, draft⟩ := append
  have failed : ∀ (failure : AuditStoreError) (reached : AuditDb),
      (Except.error failure : Except AuditStoreError Uuid).isOk →
      ChainsLinked library reached ∧
        Wrote library [⟨id, draft⟩] working reached := by
    intro failure reached isOk
    simp [Except.isOk, Except.toBool] at isOk
  refine .ofExcept_bind (fun failure _ => failed failure working) fun _ _ => ?_
  refine .statement_bind (fun _ _ _ _ answered => ?_)
    fun lockView _ _ _ answered => ?_
  · cases answered
    exact Locking.covers_nil _
  cases answered
  rw [Database.applyAll_nil]
  refine .statement_bind (fun _ _ _ _ answered => ?_)
    fun headView _ _ agree answered => ?_
  · cases answered
    exact Locking.covers_nil _
  cases answered
  rw [Database.applyAll_nil]
  refine .ofExcept_bind (fun failure _ => failed failure working)
    fun position next => ?_
  obtain ⟨chainSequence, previousHash⟩ := position
  refine .ofExcept_bind (fun failure _ => failed failure working)
    fun sealedEvent isSealed => ?_
  refine .ofExcept_bind (fun failure _ => failed failure working)
    fun payload encoded => ?_
  obtain ⟨columns, hasColumns, ofOrganization, payloadOf, fits⟩ :=
    exists_sealedRow isSealed encoded
  have locked : .advisory (hashText draft.organizationId.text) ∈
      held ++ (auditLocking hashText).acquires
        (.lockOrganizationChain draft.organizationId) lockView := by
    simp [acquires]
  refine .statement_bind (fun _ _ _ _ answered => ?_)
    fun _ _ _ _ answered => ?_
  · rw [execInsertEvent_eq_ok answered]
    apply covers_insert
    rw [ofOrganization]
    exact List.mem_append_left _ locked
  rw [execInsertEvent_eq_ok answered]
  refine .done fun _ => ⟨linked.insert hasColumns ?_, ?_⟩
  · have sameChain : headView.chain draft.organizationId =
        working.chain draft.organizationId :=
      chain_eq_of_agree agree (List.mem_append_left _ locked)
    rw [sameChain, linked.chain_eq] at next
    rw [ofOrganization, ← (linked _).nextChainPosition_eq next]
    exact fits
  · obtain ⟨_, _, isEvent⟩ :=
      AuditEventDraft.seal_eq_ok_iff.mp (sealDraft_eq_ok isSealed)
    cases hasColumns
    exact .cons ⟨chainSequence, payload, sealedEvent, rfl,
      congrArg SealedAuditEvent.event isEvent, payloadOf⟩ (.nil _)

end Appends

/-! ## Every interleaving -/

/-- A transaction that appends: the store's own, or a caller's that appends any
number of events. -/
inductive AuditCall where
  | append (append : Append)
  | transaction (appends : List Append)

def AuditCall.appends : AuditCall → List Append
  | .append single => [single]
  | .transaction several => several

def appendEach (library : AuditLibrary) (append : Append) : Store Unit := do
  let _ ← appendInTx library append.id append.draft
  return ()

def appendAll (library : AuditLibrary) (appends : List Append) :
    Store Unit := do
  Program.forEach (appendEach library) appends
  commit

def auditClient (library : AuditLibrary) :
    Client auditSql AuditStoreError where
  Call := AuditCall
  Result
    | .append _ => Uuid
    | .transaction _ => Unit
  program
    | .append append => AuditStore.append library append.id append.draft
    | .transaction appends => appendAll library appends

theorem commitFree_appendInTx (library : AuditLibrary) (id : Uuid)
    (draft : AuditEventDraft) : (appendInTx library id draft).CommitFree :=
  (Program.commitFree_ofExcept _).bind fun _ =>
    (Program.commitFree_statement _ _).bind fun _ =>
    (Program.commitFree_statement _ _).bind fun _ =>
    (Program.commitFree_ofExcept _).bind fun _ =>
    (Program.commitFree_ofExcept _).bind fun _ =>
    (Program.commitFree_ofExcept _).bind fun _ =>
    (Program.commitFree_statement _ _).bind fun _ => .done _

/-- What an append that succeeds has gone through. -/
theorem steps_of_eval_appendInTx {library : AuditLibrary} {id appended : Uuid}
    {draft : AuditEventDraft} {connection reached : Connection auditSql}
    (ended : (appendInTx library id draft).eval connection =
      (.ok appended, reached)) :
    ∃ chainSequence previousHash sealedEvent payload,
      nextChainPosition ((connection.working.chain
          draft.organizationId).getLast?.map ChainRow.columns) =
        .ok (chainSequence, previousHash) ∧
      sealDraft library draft previousHash = .ok sealedEvent ∧
      toVec library sealedEvent.event = .ok payload ∧
      reached.working.rows = connection.working.rows ++
        [sealedRow id chainSequence payload sealedEvent] := by
  rcases Program.eval_bind_eq_ok ended with ⟨_, _, checked, ended⟩
  rw [(Program.eval_ofExcept_eq_ok checked).2] at ended
  rcases Program.eval_bind_eq_ok ended with ⟨_, _, locked, ended⟩
  rcases Program.eval_statement_eq_ok locked with ⟨_, answered, unchanged⟩
  cases answered
  rw [unchanged, Database.applyAll_nil] at ended
  rcases Program.eval_bind_eq_ok ended with ⟨_, _, selected, ended⟩
  rcases Program.eval_statement_eq_ok selected with ⟨_, answered, unchanged⟩
  cases answered
  rw [unchanged, Database.applyAll_nil] at ended
  rcases Program.eval_bind_eq_ok ended with
    ⟨⟨chainSequence, previousHash⟩, _, positioned, ended⟩
  rcases Program.eval_ofExcept_eq_ok positioned with ⟨position, unchanged⟩
  rw [unchanged] at ended
  rcases Program.eval_bind_eq_ok ended with
    ⟨sealedEvent, _, sealing, ended⟩
  rcases Program.eval_ofExcept_eq_ok sealing with ⟨isSealed, unchanged⟩
  rw [unchanged] at ended
  rcases Program.eval_bind_eq_ok ended with ⟨payload, _, encoding, ended⟩
  rcases Program.eval_ofExcept_eq_ok encoding with ⟨encoded, unchanged⟩
  rw [unchanged] at ended
  rcases Program.eval_bind_eq_ok ended with ⟨_, _, inserting, ended⟩
  rcases Program.eval_statement_eq_ok inserting with
    ⟨writes, inserted, isReached⟩
  rw [(Program.eval_pure_eq_ok ended).2, isReached,
    execInsertEvent_eq_ok inserted]
  exact ⟨chainSequence, previousHash, sealedEvent, payload, position, isSealed,
    encoded, rfl⟩

/-- The store's own append is one in a transaction, and a commit. -/
theorem exists_eval_of_call_append {library : AuditLibrary} {id eventId : Uuid}
    {draft : AuditEventDraft} {before after : AuditDb}
    (ended : (append library id draft).call before = (.ok eventId, after)) :
    ∃ reached, (appendInTx library id draft).eval (.fresh before) =
      (.ok eventId, reached) ∧ reached.working = after := by
  rcases Program.call_eq_ok ended with ⟨final, evaluated, isAfter⟩
  rcases Program.eval_bind_eq_ok evaluated with ⟨appended, reached, inTx, rest⟩
  rcases Program.eval_bind_eq_ok rest with ⟨_, _, committing, returned⟩
  rcases Program.eval_pure_eq_ok returned with ⟨isAppended, isFinal⟩
  rw [isAppended]
  refine ⟨reached, inTx, ?_⟩
  rw [isAfter, isFinal, Program.eval_commitNow_eq_ok committing]
  rfl

/-- An append that succeeds adds the row of the sanitized draft. -/
theorem eval_appendInTx_eq_ok {library : AuditLibrary} {id appended : Uuid}
    {draft : AuditEventDraft} {connection reached : Connection auditSql}
    (ended : (appendInTx library id draft).eval connection =
      (.ok appended, reached)) :
    ∃ chainSequence payload sealedEvent,
      sealedEvent.event = draft.sanitize ∧
      reached.working.rows = connection.working.rows ++
        [sealedRow id chainSequence payload sealedEvent] := by
  obtain ⟨chainSequence, previousHash, sealedEvent, payload, _, isSealed, _,
    rows⟩ := steps_of_eval_appendInTx ended
  obtain ⟨_, _, isEvent⟩ :=
    AuditEventDraft.seal_eq_ok_iff.mp (sealDraft_eq_ok isSealed)
  exact ⟨chainSequence, payload, sealedEvent, by rw [isEvent], rows⟩

section Interleavings

variable {library : AuditLibrary} {hashText : String → Int}

private theorem locked_appendEach (appends : List Append) :
    ∀ {held : List LockKey} {working : AuditDb},
      ChainsLinked library working →
      (Program.forEach (appendEach library) appends).Locked
        (auditLocking hashText)
        (fun outcome _ reached => outcome.isOk →
          ChainsLinked library reached ∧
            Wrote library appends working reached)
        (fun _ _ => False) held working := by
  induction appends with
  | nil =>
      intro held working linked
      exact .done fun _ => ⟨linked, .nil working⟩
  | cons first rest inductionHypothesis =>
      intro held working linked
      rw [Program.forEach, appendEach, bind_assoc]
      refine (locked_appendInTx first linked).bind (fun _ _ _ _ isOk => ?_)
        fun _ _ reached appended => ?_
      · simp [Except.isOk, Except.toBool] at isOk
      obtain ⟨reachedLinked, extended⟩ := appended rfl
      rw [pure_bind]
      refine (inductionHypothesis reachedLinked).weaken
        fun outcome _ final ended isOk => ?_
      obtain ⟨finalLinked, extendedRest⟩ := ended isOk
      cases extended with
      | cons records extendedNone =>
          cases extendedNone
          exact ⟨finalLinked, .cons records extendedRest⟩

/-- Every transaction keeps the chains linked and adds its own rows. -/
theorem keeps_auditClient :
    System.Keeps (auditClient library) (auditLocking hashText)
      (ChainsLinked library)
      (fun commit => Wrote library (AuditCall.appends commit.call)
        commit.before commit.after) := by
  intro call db linked
  cases call with
  | append append =>
      refine (locked_appendInTx append linked).bind (fun _ _ _ _ => trivial)
        fun id held reached appended => ?_
      exact .commit (.done _) (appended rfl)
  | transaction appends =>
      refine (locked_appendEach appends linked).bind (fun _ _ _ _ => trivial)
        fun id held reached appended => ?_
      exact .commit (.done _) (appended rfl)

/-- What appends add to the chain of an organization. -/
theorem Extends.entries {appends : List Append} {before after : AuditDb}
    (extended : Extends library appends before after) (organizationId : Uuid) :
    ∃ added, after.entries organizationId =
        before.entries organizationId ++ added ∧
      added.length = appends.countP
        (fun append => append.draft.organizationId = organizationId) ∧
      ∀ row ∈ added, ∃ append ∈ appends,
        library.toVec append.draft.sanitize =
          some row.columns.canonicalPayload := by
  induction extended with
  | nil db => exact ⟨[], by simp⟩
  | @cons append rest row db reached records _ inductionHypothesis =>
      obtain ⟨added, entries, length, fromAppends⟩ := inductionHypothesis
      obtain ⟨columns, hasColumns, payload⟩ := records.payload
      have fromRest : ∀ later ∈ added, ∃ other ∈ append :: rest,
          library.toVec other.draft.sanitize =
            some later.columns.canonicalPayload := by
        intro later member
        obtain ⟨other, otherMember, same⟩ := fromAppends later member
        exact ⟨other, List.mem_cons_of_mem append otherMember, same⟩
      by_cases same : append.draft.organizationId = organizationId
      · refine ⟨⟨row.id, columns⟩ :: added, ?_, ?_, ?_⟩
        · rw [entries]
          simp [AuditDb.entries, chainRow, records.organizationId, same,
            hasColumns]
        · simp [length, same]
        · intro later member
          rcases List.mem_cons.mp member with rfl | old
          · exact ⟨append, List.mem_cons_self .., payload⟩
          · exact fromRest later old
      · refine ⟨added, ?_, ?_, fromRest⟩
        · rw [entries]
          simp [AuditDb.entries, chainRow, records.organizationId, same]
        · simp [length, same]

/-- No row is sealed, as before the chains were introduced. -/
def Unsealed (db : AuditDb) : Prop :=
  ∀ row ∈ db.rows, row.sealedColumns = none

theorem Unsealed.entries_eq {db : AuditDb} (unsealed : Unsealed db)
    (organizationId : Uuid) : db.entries organizationId = [] := by
  rw [AuditDb.entries, List.filterMap_eq_nil_iff]
  intro row member
  simp [chainRow, unsealed row member]

theorem Unsealed.chainsLinked {db : AuditDb} (unsealed : Unsealed db) :
    ChainsLinked library db := by
  intro organizationId
  rw [unsealed.entries_eq]
  trivial

/-- The appends that some commits committed. -/
def committedAppends (commits : List (Commit (auditClient library))) :
    List Append :=
  commits.flatMap fun commit => AuditCall.appends commit.call

/-- How many of them belong to an organization. -/
def appendCount (commits : List (Commit (auditClient library)))
    (organizationId : Uuid) : Nat :=
  (committedAppends commits).countP
    fun append => append.draft.organizationId = organizationId

/-- The chain of an organization has the rows of the committed appends and no
others. -/
theorem entries_of_history {first db : AuditDb}
    {commits : List (Commit (auditClient library))} (unsealed : Unsealed first)
    (history : History
      (fun commit => Extends library (AuditCall.appends commit.call)
        commit.before commit.after) first commits db) (organizationId : Uuid) :
    (db.entries organizationId).length =
        appendCount commits organizationId ∧
      ∀ row ∈ db.entries organizationId, ∃ append ∈ committedAppends commits,
        library.toVec append.draft.sanitize =
          some row.columns.canonicalPayload := by
  induction history with
  | nil => simp [unsealed.entries_eq, appendCount, committedAppends]
  | @cons commit commits _ extended inductionHypothesis =>
      obtain ⟨length, fromCommits⟩ := inductionHypothesis
      obtain ⟨added, entries, addedLength, fromAppends⟩ :=
        extended.entries organizationId
      constructor
      · simp only [entries, List.length_append, length, addedLength,
          appendCount, committedAppends, List.flatMap_cons,
          List.countP_append]
        omega
      · intro row member
        rw [entries] at member
        simp only [committedAppends, List.flatMap_cons]
        rcases List.mem_append.mp member with old | new
        · obtain ⟨append, isCommitted, payload⟩ := fromCommits row old
          exact ⟨append, List.mem_append_right _ isCommitted, payload⟩
        · obtain ⟨append, isCommitted, payload⟩ := fromAppends row new
          exact ⟨append, List.mem_append_left _ isCommitted, payload⟩

/-- The chain of an organization has `count` rows in sequence, each with the
hash of the one before, and the verification says so. -/
structure ChainIntact (library : AuditLibrary) (db : AuditDb)
    (organizationId : Uuid) (count : Nat) : Prop where
  sequences : (db.chain organizationId).map
      (fun row => row.columns.chainSequence) =
    (List.range count).map fun offset : Nat => 1 + (offset : Int)
  first : ∀ row, (db.chain organizationId)[0]? = some row →
    row.columns.previousHash = none
  later : ∀ (index : Nat) (row next : ChainRow),
    (db.chain organizationId)[index]? = some row →
    (db.chain organizationId)[index + 1]? = some next →
    next.columns.previousHash = some row.columns.eventHash
  verified : (verifyOrganizationChain library organizationId).call db =
    (.ok (.valid count), db)

/-- The rows of all chains are linked, and they are those of the committed
appends. -/
theorem entries_of_reachable {system : System (auditClient library)
      (auditLocking hashText)}
    (reachable : System.Reachable Unsealed system) (organizationId : Uuid) :
    ChainsLinked library system.committed ∧
      (system.committed.entries organizationId).length =
        appendCount system.commits organizationId ∧
      ∀ row ∈ system.committed.entries organizationId,
        ∃ append ∈ committedAppends system.commits,
          library.toVec append.draft.sanitize =
            some row.columns.canonicalPayload := by
  obtain ⟨linked, first, unsealed, history⟩ := reachable.history
    (fun _ unsealed => unsealed.chainsLinked) keeps_auditClient
  exact ⟨linked, entries_of_history unsealed
    (history.mono fun _ wrote => wrote.extends) organizationId⟩

/-- Payloads that are read back are accepted. -/
theorem verified_of_reachable {system : System (auditClient library)
      (auditLocking hashText)}
    (reachable : System.Reachable Unsealed system)
    (readsBack : ∀ append ∈ committedAppends system.commits, ∀ payload,
      library.toVec append.draft.sanitize = some payload →
      ReadsBack library payload)
    (organizationId : Uuid) :
    (verifyOrganizationChain library organizationId).call system.committed =
      (.ok (.valid (appendCount system.commits organizationId)),
        system.committed) := by
  obtain ⟨linked, length, fromCommits⟩ :=
    entries_of_reachable reachable organizationId
  have isChain := linked.chain_eq organizationId
  have accepted := (linked organizationId).verified fun row member => by
    obtain ⟨append, isCommitted, payload⟩ := fromCommits row member
    exact readsBack append isCommitted _ payload
  apply call_of_verified
  · rw [isChain]
    exact accepted
  · rw [isChain, length]

/-- Whatever transactions append, commit and roll back, in any interleaving,
the chain of every organization holds exactly its committed appends. -/
theorem chainIntact_of_reachable (library : AuditLibrary)
    (hashText : String → Int)
    {system : System (auditClient library) (auditLocking hashText)}
    (reachable : System.Reachable Unsealed system)
    (readsBack : ∀ append ∈ committedAppends system.commits, ∀ payload,
      library.toVec append.draft.sanitize = some payload →
      ReadsBack library payload)
    (organizationId : Uuid) :
    ChainIntact library system.committed organizationId
      (appendCount system.commits organizationId) := by
  obtain ⟨linked, length, -⟩ := entries_of_reachable reachable organizationId
  have isLinked := linked organizationId
  have isChain := linked.chain_eq organizationId
  constructor
  case sequences => rw [isChain, isLinked.sequences, length]
  case first =>
    intro row found
    rw [isChain] at found
    cases shape : system.committed.entries organizationId with
    | nil => simp [shape] at found
    | cons head rest =>
        rw [shape] at isLinked found
        cases found
        exact isLinked.1.previousHash
  case later =>
    rw [isChain]
    exact isLinked.previousHash_succ
  case verified =>
    exact verified_of_reachable reachable readsBack organizationId

end Interleavings

namespace Sample

def organizationId : Uuid := ⟨1⟩

def draftOf (requestId : String) : AuditEventDraft where
  organizationId
  siteId := none
  actorType := .system
  actorId := none
  sessionId := none
  sourceIp := some "127.0.0.1"
  requestId
  correlationId := ⟨2⟩
  action := "credential.update"
  resourceType := "credential"
  resourceId := some "core"
  provider := none
  occurredAtUnixMs := 1000
  durationMs := none
  status := .succeeded
  reasonCode := none
  before := none
  after := some (.object [("password", .string "hunter2")])
  result := some (.object [("ok", .bool true)])

/-- The JSON text of the sanitized draft. -/
def textOf (requestId : String) : String :=
  "\x7b\"organizationId\":\"00000000-0000-0000-0000-000000000001\"," ++
    "\"siteId\":null,\"actorType\":\"system\",\"actorId\":null," ++
    "\"sessionId\":null,\"sourceIp\":\"127.0.0.1\"," ++
    "\"requestId\":\"" ++ requestId ++ "\"," ++
    "\"correlationId\":\"00000000-0000-0000-0000-000000000002\"," ++
    "\"action\":\"credential.update\",\"resourceType\":\"credential\"," ++
    "\"resourceId\":\"core\",\"provider\":null," ++
    "\"occurredAtUnixMs\":1000,\"durationMs\":null," ++
    "\"status\":\"succeeded\",\"reasonCode\":null,\"before\":null," ++
    "\"after\":\x7b\"password\":\"[REDACTED]\"\x7d," ++
    "\"result\":\x7b\"ok\":true\x7d\x7d"

def draft : AuditEventDraft := draftOf "r-1"

def text : String := textOf "r-1"

def laterDraft : AuditEventDraft := draftOf "r-2"

def laterText : String := textOf "r-2"

/-- The SHA-256 digest of the sealed payload. -/
def digest : FixedBytes 32 :=
  ⟨[251, 114, 120, 78, 222, 62, 155, 118, 58, 22, 227,
    192, 198, 43, 238, 74, 40, 141, 196, 40, 116, 63,
    176, 206, 166, 119, 154, 62, 102, 21, 201, 14], by decide⟩

/-- The SHA-256 digest of the later payload behind that digest. -/
def laterDigest : FixedBytes 32 :=
  ⟨[18, 150, 105, 131, 182, 188, 111, 234, 254, 7, 209, 138, 208, 246, 125, 210,
    122, 185, 122, 72, 71, 89, 222, 166, 70, 230, 131, 73, 13, 5, 222, 146],
    by decide⟩

def sha256 (message : Bytes) : FixedBytes 32 :=
  if (auditDomain ++ digest.bytes).isPrefixOf message then laterDigest
  else digest

/-- The codec and the hash function where the runs use them. -/
def library : AuditLibrary where
  toVec event :=
    if event = draft.sanitize then some (utf8Bytes text)
    else if event = laterDraft.sanitize then some (utf8Bytes laterText)
    else none
  fromSlice bytes :=
    if bytes = utf8Bytes text then some draft.sanitize
    else if bytes = utf8Bytes laterText then some laterDraft.sanitize
    else none
  sha256

theorem laterText_ne : utf8Bytes laterText ≠ utf8Bytes text := by
  decide +kernel

private theorem toVec_laterDraft :
    library.toVec laterDraft.sanitize = some (utf8Bytes laterText) := by
  have different : laterDraft.sanitize ≠ draft.sanitize := by
    decide
  simp [library, different]

/-- Every payload of the library is read back. -/
theorem readsBack_library {event : AuditEventDraft} {payload : Bytes}
    (encoded : library.toVec event = some payload) :
    ReadsBack library payload := by
  by_cases isDraft : event = draft.sanitize
  · have isText : utf8Bytes text = payload := by
      simpa [library, isDraft] using encoded
    exact ⟨draft.sanitize, by simp [library, isText], by simp [library, isText]⟩
  · have isLater : event = laterDraft.sanitize ∧
        utf8Bytes laterText = payload := by
      simpa [library, isDraft] using encoded
    rw [← isLater.2]
    refine ⟨laterDraft.sanitize, by simp [library, laterText_ne], ?_⟩
    rw [AuditEventDraft.sanitize_sanitize]
    exact toVec_laterDraft

variable (library : AuditLibrary)

/-- A session that has an append still to do. -/
def appending (id : Uuid) (draft : AuditEventDraft) :
    Session (auditClient library) (auditLocking fun _ => 0) :=
  .start _ (AuditCall.append ⟨id, draft⟩)

/-- Two of them are open. -/
def opened : System (auditClient library) (auditLocking fun _ => 0) :=
  ((System.initial _ _ (⟨[]⟩ : AuditDb)).set 0
    (some (appending library ⟨4⟩ laterDraft))).set 1
      (some (appending library ⟨3⟩ draft))

/-- The second one commits before the first one. -/
def overtaken : System (auditClient library) (auditLocking fun _ => 0) :=
  [1, 0].foldl System.turn (opened library)

theorem reachable_overtaken :
    System.Reachable Unsealed (overtaken library) := by
  have start : System.Reachable Unsealed
      (System.initial (auditClient library) (auditLocking fun _ => 0) ⟨[]⟩) :=
    .initial fun _ member => absurd member List.not_mem_nil
  have isOpened : System.Reachable Unsealed (opened library) :=
    (start.step (.start 0 _ rfl)).step (.start 1 _ rfl)
  apply isOpened.turns
  intro place session found
  rcases System.sessions_set_eq_some found with ⟨_, isSession⟩ | ⟨_, found⟩
  · cases isSession
    rfl
  · rcases System.sessions_set_eq_some found with ⟨_, isSession⟩ | ⟨_, none⟩
    · cases isSession
      rfl
    · cases none

end Sample

theorem chainIntact_overtaken :
    ChainIntact Sample.library (Sample.overtaken Sample.library).committed
      Sample.organizationId 2 := by
  have two : appendCount (Sample.overtaken Sample.library).commits
      Sample.organizationId = 2 := by
    decide
  rw [← two]
  exact chainIntact_of_reachable Sample.library (fun _ => 0)
    (Sample.reachable_overtaken Sample.library)
    (fun _ _ _ encoded => Sample.readsBack_library encoded)
    Sample.organizationId

end NetworkManager.AuditStore
