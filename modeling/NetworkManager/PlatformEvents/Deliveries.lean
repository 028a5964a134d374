import NetworkManager.PlatformEvents.Dispatcher

/-!
# Rows and the records of their deliveries

The status of a row, its timestamps and the records of its deliveries are
written by three statements with different conditions.  They agree in every
state that dispatchers can reach, in whatever order their tasks go on: only a
completion that finds a lease settles a row, and a leased row is pending, so
what is settled stays.
-/

namespace NetworkManager.PlatformEvents

open NetworkManager.Foundation
open NetworkManager.Transaction

/-- The number of deliveries with an outcome. -/
def outcomes (outcome : DeliveryOutcome) (records : List DeliveryAttempt) :
    Nat :=
  records.countP fun record => record.outcome = outcome

/-- A row agrees with the records of its deliveries. -/
structure OutboxRow.Coherent (row : OutboxRow)
    (records : List DeliveryAttempt) : Prop where
  leased : row.lease.isSome → row.status = .pending
  published : row.status = .published ↔ row.publishedAt.isSome
  publishedOnce : row.status = .published ↔ outcomes .published records = 1
  deadLettered : row.status = .deadLetter ↔ row.deadLetteredAt.isSome
  deadLetteredOnce :
    row.status = .deadLetter ↔ outcomes .deadLetter records = 1
  notBoth : ¬(row.publishedAt.isSome ∧ row.deadLetteredAt.isSome)
  attempts : ∀ record ∈ records,
    1 ≤ record.attempt ∧ record.attempt ≤ row.attempts
  distinct : (records.map DeliveryAttempt.attempt).Nodup

/-- The row is settled for good. -/
def OutboxRow.Final (row : OutboxRow) : Prop :=
  row.status = .published ∨ row.status = .deadLetter

namespace Dispatching

/-- Every row agrees with its records, is published only after a publisher has
answered, and stays as it is with its records when it is settled. -/
structure Coherent (system : Dispatching) : Prop where
  referenced : ∀ record ∈ system.ledger.db.deliveries.rows,
    (system.ledger.db.events.lookup record.eventId).isSome
  rows : ∀ row ∈ system.ledger.db.events.rows,
    row.Coherent (recordsOf row.id system.ledger.db)
  delivered : ∀ row ∈ system.ledger.db.events.rows, row.status = .published →
    ∃ delivery ∈ system.deliveries, delivery.event.id = row.id ∧
      delivery.phase.result? = some .ok
  final : ∀ row ∈ system.ledger.db.events.rows, row.Final → ∀ actions,
    (system.run actions).ledger.db.events.lookup row.id = some row ∧
      recordsOf row.id (system.run actions).ledger.db =
        recordsOf row.id system.ledger.db

end Dispatching

section Rows

variable {ledger reached : Ledger} {operation : Operation} {id : Uuid}

/-- What the records of a row add up to, as long as it waits and after. -/
structure OutboxRow.Settled (row : OutboxRow)
    (records : List DeliveryAttempt) : Prop where
  leased : row.lease.isSome → row.status = .pending
  publishedAt : row.publishedAt.isSome = decide (row.status = .published)
  deadLetteredAt :
    row.deadLetteredAt.isSome = decide (row.status = .deadLetter)
  publications : outcomes .published records =
    if row.status = .published then 1 else 0
  deadLetters : outcomes .deadLetter records =
    if row.status = .deadLetter then 1 else 0
  attempts : ∀ record ∈ records,
    1 ≤ record.attempt ∧ record.attempt ≤ row.attempts
  distinct : (records.map DeliveryAttempt.attempt).Nodup

private theorem OutboxRow.Settled.coherent {row : OutboxRow}
    {records : List DeliveryAttempt} (settled : row.Settled records) :
    row.Coherent records where
  leased := settled.leased
  published := by simp [settled.publishedAt]
  publishedOnce := by simp [settled.publications]
  deadLettered := by simp [settled.deadLetteredAt]
  deadLetteredOnce := by simp [settled.deadLetters]
  notBoth := by
    simp only [settled.publishedAt, settled.deadLetteredAt,
      decide_eq_true_eq]
    rintro ⟨published, deadLettered⟩
    rw [published] at deadLettered
    cases deadLettered
  attempts := settled.attempts
  distinct := settled.distinct

/-- Every event that was handed out has at least that many attempts, and every
record has its row. -/
structure Ledger.Traced (ledger : Ledger) : Prop where
  handed : ∀ call, .claimed call ∈ ledger.log → ∀ event ∈ call.events,
    ∃ row, ledger.db.events.lookup event.id = some row ∧
      event.attempts ≤ row.attempts
  referenced : ∀ record ∈ ledger.db.deliveries.rows,
    (ledger.db.events.lookup record.eventId).isSome

private theorem Ledger.Traced.step (traced : ledger.Traced)
    (moves : ledger.Moves operation reached) : reached.Traced where
  handed := by
    have stays (call : ClaimCall) (old : .claimed call ∈ ledger.log) :
        ∀ event ∈ call.events, ∃ row,
          reached.db.events.lookup event.id = some row ∧
            event.attempts ≤ row.attempts := by
      intro event returned
      obtain ⟨old, found, atMost⟩ := traced.handed call old event returned
      obtain ⟨row, after, grown⟩ := moves.attempts_le found
      exact ⟨row, after, atMost.trans grown⟩
    intro call logged
    cases moves with
    | waits _ _ => exact stays call logged
    | enqueues _ _ _ => exact stays call (by simpa using logged)
    | completes _ _ _ _ _ _ => exact stays call (by simpa using logged)
    | claims workerId batchSize lease locked plan =>
        rcases List.mem_cons.mp logged with new | old
        · cases new
          intro event returned
          obtain ⟨row, found, same⟩ := lookup_of_claimed returned
          exact ⟨row, found, same.ge⟩
        · exact stays call old
  referenced := by
    intro record member
    cases moves with
    | waits _ _ => exact traced.referenced record member
    | enqueues began plan absent =>
        have before := traced.referenced record member
        exact Moves.isSome_lookup (.enqueues began plan absent) before
    | claims workerId batchSize lease locked plan =>
        have sameRecords := deliveries_applyAll_events
          ((picked (clamp batchSize 1 250).toNat ledger.clock locked
            ledger.db).map (claimRow workerId (clamp lease 1 300)
              ledger.clock)) ledger.db
        rw [List.map_map] at sameRecords
        have old : record ∈ ledger.db.deliveries.rows := by
          rw [← sameRecords]
          exact member
        exact Moves.isSome_lookup (.claims workerId batchSize lease locked plan)
          (traced.referenced record old)
    | @completes workerId event completion began plan row may leased absent
        positive =>
        have completes := Moves.completes completion plan may leased absent
          positive
        apply Moves.isSome_lookup completes
        rcases Table.mem_put.mp member with rfl | ⟨old, _⟩
        · rw [record_eventId]
          exact Option.isSome_of_eq_some (leasedTo_eq_some leased).1
        · exact traced.referenced record old

private theorem outcomes_append (outcome : DeliveryOutcome)
    (records : List DeliveryAttempt) (record : DeliveryAttempt) :
    outcomes outcome (records ++ [record]) =
      outcomes outcome records + if record.outcome = outcome then 1 else 0 := by
  simp [outcomes, List.countP_append, List.countP_singleton]

private theorem settled_newRow (event : NewOutboxEvent) (began : Timestamp) :
    (newRow event began).Settled [] where
  leased := fun _ => rfl
  publishedAt := rfl
  deadLetteredAt := rfl
  publications := rfl
  deadLetters := rfl
  attempts := by
    intro record member
    cases member
  distinct := List.nodup_nil

/-- A row that waits has neither been published nor dead-lettered. -/
theorem OutboxRow.Settled.waiting {row : OutboxRow}
    {records : List DeliveryAttempt} (settled : row.Settled records)
    (waits : isOpen row.status = true) :
    row.publishedAt = none ∧ row.deadLetteredAt = none ∧
      outcomes .published records = 0 ∧ outcomes .deadLetter records = 0 := by
  have notPublished : row.status ≠ .published := by
    intro published
    rw [published] at waits
    cases waits
  have notDeadLettered : row.status ≠ .deadLetter := by
    intro deadLettered
    rw [deadLettered] at waits
    cases waits
  have publishedAt := settled.publishedAt
  have deadLetteredAt := settled.deadLetteredAt
  have publications := settled.publications
  have deadLetters := settled.deadLetters
  simp only [notPublished, notDeadLettered, decide_false,
    Option.isSome_eq_false_iff, Option.isNone_iff_eq_none, if_false]
    at publishedAt deadLetteredAt publications deadLetters
  exact ⟨publishedAt, deadLetteredAt, publications, deadLetters⟩

private theorem OutboxRow.Settled.claimRow {row : OutboxRow}
    {records : List DeliveryAttempt} (settled : row.Settled records)
    (waits : isOpen row.status = true) (workerId : String)
    (leaseSeconds : Int) (now : Timestamp) :
    (PlatformEvents.claimRow workerId leaseSeconds now row).Settled records := by
  obtain ⟨publishedAt, deadLetteredAt, publications, deadLetters⟩ :=
    settled.waiting waits
  constructor
  · exact fun _ => rfl
  · simp [PlatformEvents.claimRow, publishedAt]
  · simp [PlatformEvents.claimRow, deadLetteredAt]
  · simp [PlatformEvents.claimRow, publications]
  · simp [PlatformEvents.claimRow, deadLetters]
  · intro record member
    obtain ⟨positive, atMost⟩ := settled.attempts record member
    exact ⟨positive, Int.le_add_one atMost⟩
  · exact settled.distinct

/-- A completion of an attempt that has no record settles a leased row. -/
theorem OutboxRow.Settled.settle {row : OutboxRow}
    {records : List DeliveryAttempt} {event : OutboxEvent}
    (settled : row.Settled records) (leased : row.lease.isSome)
    (positive : 1 ≤ event.attempts) (atMost : event.attempts ≤ row.attempts)
    (fresh : event.attempts ∉ records.map DeliveryAttempt.attempt)
    (completion : Completion) (workerId : String) (began : Timestamp) :
    (completion.settle event began row).Settled
      (records ++ [completion.record workerId event]) := by
  have pending := settled.leased leased
  have waits : isOpen row.status = true := by rw [pending]; rfl
  obtain ⟨publishedAt, deadLetteredAt, publications, deadLetters⟩ :=
    settled.waiting waits
  have noLease := settle_lease completion event began row
  have attempts : ∀ record ∈ records ++ [completion.record workerId event],
      1 ≤ record.attempt ∧
        record.attempt ≤ (completion.settle event began row).attempts := by
    intro record member
    rw [settle_attempts]
    rcases List.mem_append.mp member with old | new
    · exact settled.attempts record old
    · have same : record = completion.record workerId event := by
        simpa using new
      rw [same, record_attempt]
      exact ⟨positive, atMost⟩
  have distinct : ((records ++ [completion.record workerId event]).map
      DeliveryAttempt.attempt).Nodup := by
    rw [List.map_append, List.map_singleton, record_attempt]
    apply List.nodup_append.mpr
    refine ⟨settled.distinct, List.nodup_singleton _, ?_⟩
    intro attempt old other new same
    rw [List.mem_singleton] at new
    rw [same, new] at old
    exact fresh old
  refine ⟨?_, ?_, ?_, ?_, ?_, attempts, distinct⟩
  · intro stillLeased
    rw [noLease] at stillLeased
    cases stillLeased
  all_goals
    cases completion with
    | published =>
        simp [Completion.settle, Completion.record, publishRow, deadLetteredAt,
          outcomes_append, publications, deadLetters]
    | failed errorCode maxAttempts retryAfter =>
        by_cases exhausted : maxAttempts ≤ event.attempts <;>
          simp [Completion.settle, Completion.record, exhausted, failRow,
            publishedAt, deadLetteredAt, outcomes_append, publications,
            deadLetters]

/-- What the log tells about a published row. -/
def Logged (log : List Entry) (row : OutboxRow) : Prop :=
  row.status = .published → ∃ workerId event,
    .completed workerId event .published ∈ log ∧ event.id = row.id

/-- Every row is settled as its records say. -/
structure Ledger.Settled (ledger : Ledger) : Prop where
  traced : ledger.Traced
  rows : ∀ id row, ledger.db.events.lookup id = some row →
    row.Settled (recordsOf id ledger.db) ∧ Logged ledger.log row

private theorem recordsOf_eq_nil (traced : ledger.Traced)
    (absent : ledger.db.events.lookup id = none) :
    recordsOf id ledger.db = [] := by
  rw [recordsOf, List.filter_eq_nil_iff]
  intro record member isEvent
  have present := traced.referenced record member
  rw [of_decide_eq_true isEvent, absent] at present
  cases present

private theorem notMem_attempts {attempt : Int}
    (absent : ledger.db.deliveries.lookup (id, attempt) = none) :
    attempt ∉ (recordsOf id ledger.db).map DeliveryAttempt.attempt := by
  intro member
  obtain ⟨record, isRecord, rfl⟩ := List.mem_map.mp member
  obtain ⟨stored, isEvent⟩ := List.mem_filter.mp isRecord
  apply Table.lookup_eq_none_iff.mp absent record stored
  exact Prod.ext (of_decide_eq_true isEvent) rfl

/-- A lease that a completion finds is one of an event that was handed out. -/
theorem Ledger.Traced.attempts_le (traced : ledger.Traced) {workerId : String}
    {event : OutboxEvent} {began : Timestamp} {row : OutboxRow}
    (may : ledger.MayComplete workerId event began)
    (found : ledger.db.events.lookup event.id = some row) :
    event.attempts ≤ row.attempts := by
  obtain ⟨_, entry, logged, claimed⟩ := may
  cases entry with
  | claimed call =>
      obtain ⟨_, returned, _⟩ := claimed
      obtain ⟨stored, storedFound, atMost⟩ :=
        traced.handed call logged event returned
      rw [found] at storedFound
      cases storedFound
      exact atMost
  | enqueued _ => exact claimed.elim
  | completed _ _ _ => exact claimed.elim

private theorem Ledger.RowMoves.settled {row : OutboxRow}
    (moves : ledger.RowMoves operation id row reached)
    (settled : ledger.Settled) :
    row.Settled (recordsOf id reached.db) ∧ Logged reached.log row := by
  cases moves with
  | waits _ found => exact settled.rows id row found
  | passed found _ sameRecords =>
      obtain ⟨before, logged⟩ := settled.rows id row found
      refine ⟨sameRecords ▸ before, fun published => ?_⟩
      obtain ⟨workerId, event, member, isEvent⟩ := logged published
      exact ⟨workerId, event, List.mem_cons_of_mem _ member, isEvent⟩
  | @enqueued event began db absent _ sameRecords =>
      refine ⟨?_, fun published => by cases published⟩
      rw [sameRecords, recordsOf_eq_nil settled.traced absent]
      exact settled_newRow event began
  | @claimed workerId batchSize lease locked plan old db _ found isPicked
      sameRecords =>
      have waits : isOpen old.status = true := by
        have may := (mem_of_mem_picked isPicked).2
        simp only [claimable, Bool.and_eq_true] at may
        exact may.1.1.1
      refine ⟨?_, fun published => by cases published⟩
      rw [sameRecords]
      exact (settled.rows id old found).1.claimRow waits workerId
        (clamp lease 1 300) ledger.clock
  | @completed workerId event completion began plan old db _ may isEvent leased
      absent positive records =>
      subst isEvent
      obtain ⟨found, lease, isHeld, _⟩ := leasedTo_eq_some leased
      have atMost := settled.traced.attempts_le may found
      refine ⟨?_, ?_⟩
      · rw [records]
        exact (settled.rows event.id old found).1.settle
          (Option.isSome_of_eq_some isHeld) positive atMost
          (notMem_attempts absent) completion workerId began
      · intro published
        cases completion with
        | published =>
            have sameId := Table.key_of_lookup found
            exact ⟨workerId, event, List.mem_cons_self .., sameId.symm⟩
        | failed errorCode maxAttempts retryAfter =>
            by_cases exhausted : maxAttempts ≤ event.attempts <;>
              simp [Completion.settle, exhausted, failRow] at published

private theorem Ledger.Settled.step (moves : ledger.Moves operation reached)
    (settled : ledger.Settled) : reached.Settled where
  traced := settled.traced.step moves
  rows _ _ found := (moves.row found).settled settled

private theorem Ledger.settled_initial (clock : Timestamp) :
    (Ledger.initial clock).Settled where
  traced := by
    constructor
    · intro call member
      cases member
    · intro record member
      cases member
  rows := by
    intro id row found
    cases found

/-- A row that is settled for good stays, and so do its records. -/
theorem Ledger.Settled.final (settled : ledger.Settled)
    (moves : ledger.Moves operation reached) {row : OutboxRow}
    (found : ledger.db.events.lookup id = some row) (isFinal : row.Final) :
    reached.db.events.lookup id = some row ∧
      recordsOf id reached.db = recordsOf id ledger.db := by
  have present := moves.isSome_lookup (Option.isSome_of_eq_some found)
  obtain ⟨after, foundAfter⟩ := Option.isSome_iff_exists.mp present
  cases moves.row foundAfter with
  | waits _ before =>
      rw [found] at before
      cases before
      exact ⟨foundAfter, rfl⟩
  | passed before _ sameRecords =>
      rw [found] at before
      cases before
      exact ⟨foundAfter, sameRecords⟩
  | enqueued absent _ _ =>
      rw [found] at absent
      cases absent
  | claimed _ before isPicked _ =>
      rw [found] at before
      cases before
      have may := (mem_of_mem_picked isPicked).2
      rcases isFinal with published | deadLettered
      · simp [claimable, published, isOpen] at may
      · simp [claimable, deadLettered, isOpen] at may
  | completed _ _ _ leased _ _ _ =>
      obtain ⟨before, lease, isHeld, _⟩ := leasedTo_eq_some leased
      rw [found] at before
      cases before
      have pending := (settled.rows id row found).1.leased
        (Option.isSome_of_eq_some isHeld)
      rcases isFinal with published | deadLettered
      · rw [published] at pending
        cases pending
      · rw [deadLettered] at pending
        cases pending

end Rows

namespace Dispatching

structure Kept (system : Dispatching) : Prop where
  settled : system.ledger.Settled
  answered : system.Answered

theorem Kept.step {system : Dispatching} (action : Action)
    (kept : system.Kept) : (system.step action).Kept where
  settled := ledger_kept (fun moves before => before.step moves) kept.settled
  answered := kept.answered.step action

theorem kept_initial (clock : Timestamp) : (initial clock).Kept where
  settled := Ledger.settled_initial clock
  answered := by
    intro workerId event member
    cases member

/-- A row that is settled for good stays through the whole run. -/
theorem Kept.final {system : Dispatching} (kept : system.Kept) {id : Uuid}
    {row : OutboxRow}
    (found : system.ledger.db.events.lookup id = some row)
    (isFinal : row.Final) (actions : List Action) :
    (system.run actions).ledger.db.events.lookup id = some row ∧
      recordsOf id (system.run actions).ledger.db =
        recordsOf id system.ledger.db := by
  induction actions generalizing system with
  | nil => exact ⟨found, rfl⟩
  | cons action rest inductionHypothesis =>
      have next : (system.step action).ledger.db.events.lookup id = some row ∧
          recordsOf id (system.step action).ledger.db =
            recordsOf id system.ledger.db := by
        rcases system.ledger_step action with same | ⟨call, _, moves⟩
        · rw [same]
          exact ⟨found, rfl⟩
        · exact kept.settled.final moves found isFinal
      obtain ⟨stillFound, sameRecords⟩ :=
        inductionHypothesis (kept.step action) next.1
      exact ⟨stillFound, sameRecords.trans next.2⟩

theorem Kept.coherent {system : Dispatching} (kept : system.Kept) :
    system.Coherent where
  referenced := kept.settled.traced.referenced
  rows row member := by
    have found := Table.lookup_of_mem member
    exact (kept.settled.rows row.id row found).1.coherent
  delivered row member published := by
    have found := Table.lookup_of_mem member
    obtain ⟨workerId, event, logged, isEvent⟩ :=
      (kept.settled.rows row.id row found).2 published
    obtain ⟨delivery, isDelivery, about, isOk⟩ :=
      kept.answered workerId event logged
    refine ⟨delivery, isDelivery, ?_, isOk⟩
    rw [about]
    exact isEvent
  final row member isFinal actions :=
    kept.final (Table.lookup_of_mem member) isFinal actions

/-- In every state that dispatchers can reach, rows and the records of their
deliveries agree. -/
theorem run_coherent (clock : Timestamp) (actions : List Action) :
    ((initial clock).run actions).Coherent := by
  have kept := invariant_of_actions Kept.step (kept_initial clock) actions
  exact kept.coherent

end Dispatching

end NetworkManager.PlatformEvents
