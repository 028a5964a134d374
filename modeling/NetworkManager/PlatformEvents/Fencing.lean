import NetworkManager.PlatformEvents.Outbox

/-!
# Fencing by the lease

Runs of workers that claim events and mark their outcome, each at its own pace.
A mark finds the row by the worker that holds its lease, and a worker may claim
the same event again once its lease has run out.  A mark for an earlier attempt
is therefore refused exactly as long as the later one is leased to a different
worker, or to none.
-/

namespace NetworkManager.PlatformEvents

open NetworkManager.Foundation
open NetworkManager.Transaction

/-- The two ways in which a worker completes an attempt. -/
inductive Completion where
  | published
  | failed (errorCode : String) (maxAttempts : Int) (retryAfter : Nat)
deriving DecidableEq, Repr

def Completion.program (workerId : String) (event : OutboxEvent)
    (now : Timestamp) : Completion → Store Unit
  | .published => markPublished workerId event now
  | .failed errorCode maxAttempts retryAfter => do
      let _ ←
        markFailed workerId event errorCode maxAttempts retryAfter now
      pure ()

/-- The call passes the check of its own arguments. -/
def Completion.accepted : Completion → Bool
  | .published => true
  | .failed errorCode maxAttempts _ =>
      !(isBlank errorCode || decide (maxAttempts ≤ 0))

/-- The database, its clock, and the events that claims have handed out, each
with the worker that claimed it. -/
structure System where
  clock : Timestamp
  db : OutboxDb
  handed : List (String × OutboxEvent)

def System.initial (clock : Timestamp) : System := ⟨clock, .empty, []⟩

/-- One step of a run.  A call runs in a transaction that started at `now`; an
interrupted completion is one whose worker or database fails on the way, so
that its transaction is rolled back. -/
inductive Action where
  | advanceClock (instant : Timestamp)
  | enqueue (event : NewOutboxEvent) (now : Timestamp)
  | claim (workerId : String) (batchSize : Int) (lease : Nat)
      (now : Timestamp) (locked : List Uuid)
  | complete (workerId : String) (event : OutboxEvent)
      (completion : Completion) (now : Timestamp) (interrupted : Bool)
deriving DecidableEq

namespace System

/-- A completion carries an event that a claim gave to this worker. -/
def Completes (system : System) (workerId : String) (event : OutboxEvent)
    (now : Timestamp) (interrupted : Bool) : Prop :=
  (workerId, event) ∈ system.handed ∧ now ≤ system.clock ∧
    interrupted = false

instance (system : System) (workerId : String) (event : OutboxEvent)
    (now : Timestamp) (interrupted : Bool) :
    Decidable (system.Completes workerId event now interrupted) := by
  unfold Completes
  infer_instance

/-- An action that cannot be taken changes nothing. -/
def step (system : System) : Action → System
  | .advanceClock instant =>
      { system with clock := max system.clock instant }
  | .enqueue event now =>
      if now ≤ system.clock then
        { system with
          db := ((enqueue event now >>= fun _ => commit).call system.db).2 }
      else
        system
  | .claim workerId batchSize lease now locked =>
      if now ≤ system.clock then
        match (claim workerId batchSize lease now locked).call system.db with
        | (.error _, db) => { system with db }
        | (.ok events, db) =>
            { system with
              db
              handed := system.handed ++ events.map (Prod.mk workerId) }
      else
        system
  | .complete workerId event completion now interrupted =>
      if system.Completes workerId event now interrupted then
        { system with
          db := ((completion.program workerId event now).call system.db).2 }
      else
        system

/-- Each action of a run, with the state it is taken in. -/
def steps : System → List Action → List (System × Action)
  | _, [] => []
  | system, action :: rest =>
      (system, action) :: steps (system.step action) rest

/-- A completion changes the row of its event only for the current attempt;
for any other it answers that the lease was lost and leaves everything as it
was. -/
def Fenced (system : System) : Action → Prop
  | .complete workerId event completion now interrupted =>
      system.Completes workerId event now interrupted →
        ∀ row, system.db.events.lookup event.id = some row →
          let result :=
            (completion.program workerId event now).call system.db
          (result.2.events.lookup event.id ≠ some row →
            row.attempts = event.attempts) ∧
          (row.attempts ≠ event.attempts →
            result.1 = .error .leaseLost ∧ result.2 = system.db)
  | _ => True

/-- A completion of an earlier attempt has valid arguments, and the row is not
leased to its worker under the later one. -/
def NotReclaimed (system : System) : Action → Prop
  | .complete workerId event completion now interrupted =>
      system.Completes workerId event now interrupted →
        ∀ row, system.db.events.lookup event.id = some row →
          event.attempts < row.attempts →
            completion.accepted = true ∧
              ∀ lease ∈ row.lease, lease.owner ≠ workerId
  | _ => True

end System

/-! ## Invariants -/

/-- A leased row is pending. -/
def LeasesPending (db : OutboxDb) : Prop :=
  ∀ row ∈ db.events.rows, row.lease.isSome → row.status = .pending

/-- Rows stay, and their attempts never decrease. -/
def Grows (before after : OutboxDb) : Prop :=
  ∀ id row, before.events.lookup id = some row →
    ∃ grown, after.events.lookup id = some grown ∧
      row.attempts ≤ grown.attempts

private theorem Grows.refl (db : OutboxDb) : Grows db db :=
  fun _ row found => ⟨row, found, le_rfl⟩

private theorem Grows.trans
    {first second third : OutboxDb} (early : Grows first second)
    (late : Grows second third) : Grows first third := by
  intro id row found
  obtain ⟨grown, grownFound, more⟩ := early id row found
  obtain ⟨final, finalFound, evenMore⟩ := late id grown grownFound
  exact ⟨final, finalFound, more.trans evenMore⟩

private theorem grows_put_event {db : OutboxDb} {row : OutboxRow}
    (grows : ∀ stored, db.events.lookup row.id = some stored →
      stored.attempts ≤ row.attempts) :
    Grows db (applyWrite (.event row) db) := by
  intro id stored found
  by_cases same : row.id = id
  · have written : (db.events.put row).lookup id = some row := by
      rw [← same, Table.lookup_put_self]
    exact ⟨row, written, grows stored (same ▸ found)⟩
  · have kept : (db.events.put row).lookup id = some stored := by
      rw [Table.lookup_put_of_ne same, found]
    exact ⟨stored, kept, le_rfl⟩

private theorem grows_put_delivery (db : OutboxDb) (record : DeliveryAttempt) :
    Grows db (applyWrite (.delivery record) db) :=
  Grows.refl db

/-- Every row is an old one or one that was written. -/
theorem mem_events_applyAll {row : OutboxRow} :
    ∀ {writes : List Write} {db : OutboxDb},
      row ∈ (outboxSql.applyAll writes db).events.rows →
        row ∈ db.events.rows ∨ Write.event row ∈ writes
  | [], _, member => Or.inl member
  | write :: rest, db, member => by
      have traced : row ∈ (applyWrite write db).events.rows ∨
          Write.event row ∈ rest :=
        mem_events_applyAll member
      rcases traced with old | later
      · cases write with
        | event written =>
            rcases Table.mem_put.mp old with rfl | ⟨kept, _⟩
            · exact Or.inr (List.mem_cons_self ..)
            · exact Or.inl kept
        | delivery record => exact Or.inl old
      · exact Or.inr (List.mem_cons_of_mem write later)

private theorem leasesPending_applyAll {db : OutboxDb} {writes : List Write}
    (pending : LeasesPending db)
    (written : ∀ row, Write.event row ∈ writes →
      row.lease.isSome → row.status = .pending) :
    LeasesPending (outboxSql.applyAll writes db) := by
  intro row member leased
  rcases mem_events_applyAll member with old | new
  · exact pending row old leased
  · exact written row new leased

private theorem lookup_applyAll_events (id : Uuid) :
    ∀ {rows : List OutboxRow} (db : OutboxDb),
      (rows.map OutboxRow.id).Nodup →
      (outboxSql.applyAll (rows.map .event) db).events.lookup id =
        (rows.find? fun row => row.id = id).or (db.events.lookup id)
  | [], db, _ => rfl
  | row :: rest, db, nodup => by
      rw [List.map_cons, List.nodup_cons] at nodup
      have later :
          (outboxSql.applyAll (rest.map .event)
              (applyWrite (.event row) db)).events.lookup id =
            (rest.find? fun row => row.id = id).or
              ((db.events.put row).lookup id) :=
        lookup_applyAll_events id _ nodup.2
      rw [List.map_cons, Database.applyAll_cons, later, Table.lookup_put]
      by_cases same : row.id = id
      · have absent : rest.find? (fun row => row.id = id) = none := by
          rw [List.find?_eq_none]
          intro other member sameId
          apply nodup.1
          rw [same, ← of_decide_eq_true sameId]
          exact List.mem_map_of_mem member
        simp [same, absent]
      · simp [same]

theorem mem_of_mem_picked {limit : Nat} {now : Timestamp} {locked : List Uuid}
    {db : OutboxDb} {row : OutboxRow} (member : row ∈ picked limit now locked db) :
    row ∈ db.events.rows ∧ claimable now locked row = true := by
  have sorted := List.mem_of_mem_take member
  rw [List.mem_insertionSort, List.mem_filter] at sorted
  exact sorted

theorem nodup_picked (limit : Nat) (now : Timestamp) (locked : List Uuid)
    (db : OutboxDb) :
    ((picked limit now locked db).map OutboxRow.id).Nodup := by
  have filtered :
      ((db.events.rows.filter (claimable now locked)).map
        OutboxRow.id).Nodup :=
    db.events.keysNodup.sublist (List.filter_sublist.map OutboxRow.id)
  have sorted :=
    ((List.perm_insertionSort claimedBefore
      (db.events.rows.filter (claimable now locked))).map
        OutboxRow.id).nodup_iff.mpr filtered
  exact sorted.sublist ((List.take_sublist limit _).map OutboxRow.id)

section Claims

variable {limit : Nat} {workerId : String} {leaseSeconds : Int}
  {now : Timestamp} {locked : List Uuid} {db : OutboxDb}

theorem execClaim_eq_ok {events : List OutboxEvent} {writes : List Write}
    (answered : execClaim limit workerId leaseSeconds now locked db =
      .ok (events, writes)) :
    events = (picked limit now locked db).map (fun row =>
        rowToEvent (claimRow workerId leaseSeconds now row)) ∧
      writes = (picked limit now locked db).map (fun row =>
        .event (claimRow workerId leaseSeconds now row)) := by
  unfold execClaim at answered
  simp only at answered
  split at answered
  · cases answered
  · cases answered
    simp only [List.map_map]
    exact ⟨rfl, rfl⟩

/-- Where a claim leaves a row: claimed, or untouched. -/
theorem lookup_applyAll_claim (id : Uuid) :
    (outboxSql.applyAll ((picked limit now locked db).map fun row =>
        .event (claimRow workerId leaseSeconds now row)) db).events.lookup id =
      (((picked limit now locked db).find? fun row => row.id = id).map
        (claimRow workerId leaseSeconds now)).or (db.events.lookup id) := by
  have nodup :
      (((picked limit now locked db).map
        (claimRow workerId leaseSeconds now)).map OutboxRow.id).Nodup := by
    rw [List.map_map]
    exact nodup_picked limit now locked db
  have written := lookup_applyAll_events id db nodup
  rw [List.map_map] at written
  have sameWrites :
      (Write.event ∘ claimRow workerId leaseSeconds now) =
        fun row => Write.event (claimRow workerId leaseSeconds now row) := rfl
  rw [sameWrites] at written
  rw [written, List.find?_map]
  rfl

private theorem grows_claim :
    Grows db (outboxSql.applyAll ((picked limit now locked db).map fun row =>
      .event (claimRow workerId leaseSeconds now row)) db) := by
  intro id stored found
  rw [lookup_applyAll_claim]
  cases picking : (picked limit now locked db).find? fun row => row.id = id with
  | none => exact ⟨stored, found, le_rfl⟩
  | some row =>
      have member := List.mem_of_find?_eq_some picking
      have sameId : row.id = id := by simpa using List.find?_some picking
      have inTable := Table.lookup_of_mem (mem_of_mem_picked member).1
      rw [sameId, found, Option.some.injEq] at inTable
      refine ⟨claimRow workerId leaseSeconds now row, rfl, ?_⟩
      rw [inTable]
      exact Int.le_add_one le_rfl

/-- Every event that a claim hands out is stored with its number of
attempts. -/
theorem lookup_of_claimed {event : OutboxEvent}
    (member : event ∈ (picked limit now locked db).map fun row =>
      rowToEvent (claimRow workerId leaseSeconds now row)) :
    ∃ row, (outboxSql.applyAll ((picked limit now locked db).map fun row =>
        .event (claimRow workerId leaseSeconds now row))
          db).events.lookup event.id = some row ∧
      row.attempts = event.attempts := by
  obtain ⟨row, isPicked, rfl⟩ := List.mem_map.mp member
  rw [lookup_applyAll_claim]
  have found :
      (picked limit now locked db).find? (fun other => other.id = row.id) =
        some row :=
    Table.find?_eq_of_mem (nodup_picked limit now locked db) isPicked
  refine ⟨claimRow workerId leaseSeconds now row, ?_, rfl⟩
  have sameId :
      (rowToEvent (claimRow workerId leaseSeconds now row)).id = row.id := rfl
  rw [sameId, found]
  rfl

end Claims

theorem leasedTo_eq_some {db : OutboxDb} {eventId : Uuid} {workerId : String}
    {row : OutboxRow} (leased : db.leasedTo eventId workerId = some row) :
    db.events.lookup eventId = some row ∧
      ∃ lease ∈ row.lease, lease.owner = workerId := by
  rw [OutboxDb.leasedTo, Option.filter_eq_some_iff] at leased
  obtain ⟨found, owned⟩ := leased
  rw [Option.any_eq_true] at owned
  obtain ⟨lease, held, owner⟩ := owned
  exact ⟨found, lease, held, of_decide_eq_true owner⟩

/-- What a statement writes: a new event, claimed rows, a row that gives up its
lease, the record of a delivery, or nothing. -/
inductive Writes (db : OutboxDb) : List Write → Prop
  | nothing : Writes db []
  | inserted (event : NewOutboxEvent) (now : Timestamp) :
      db.events.lookup event.id = none →
      Writes db [.event (newRow event now)]
  | claimed (limit : Nat) (workerId : String) (leaseSeconds : Int)
      (now : Timestamp) (locked : List Uuid) :
      Writes db ((picked limit now locked db).map fun row =>
        .event (claimRow workerId leaseSeconds now row))
  | released {row changed : OutboxRow} :
      db.events.lookup row.id = some row → changed.id = row.id →
      changed.attempts = row.attempts → changed.lease = none →
      Writes db [.event changed]
  | recorded (record : DeliveryAttempt) : Writes db [.delivery record]

private theorem writes_updateMatched
    {db : OutboxDb} {matched : Option OutboxRow}
    {change : OutboxRow → OutboxRow}
    (found : ∀ row ∈ matched, db.events.lookup row.id = some row)
    (sameId : ∀ row, (change row).id = row.id)
    (sameAttempts : ∀ row, (change row).attempts = row.attempts)
    (noLease : ∀ row, (change row).lease = none) :
    Writes db (updateMatched matched change).2 := by
  cases matched with
  | none => exact .nothing
  | some row =>
      exact .released (found row rfl) (sameId row) (sameAttempts row)
        (noLease row)

private theorem lookup_id_of_leasedTo {db : OutboxDb} {eventId : Uuid}
    {workerId : String} {row : OutboxRow}
    (leased : db.leasedTo eventId workerId = some row) :
    db.events.lookup row.id = some row :=
  Table.lookup_of_mem (Table.mem_of_lookup (leasedTo_eq_some leased).1)

private theorem exec_writes
    {query : Statement} {db : OutboxDb} {reply : Reply query}
    {writes : List Write}
    (answered : outboxSql.exec query db = .ok (reply, writes)) :
    Writes db writes := by
  cases query with
  | insertEvent event now =>
      have inserted : execInsertEvent event now db = .ok (reply, writes) :=
        answered
      unfold execInsertEvent at inserted
      split at inserted
      · cases inserted
      · rename_i absent
        split at inserted
        · cases inserted
        · cases inserted
          exact .inserted event now (by simpa using absent)
  | claim limit workerId leaseSeconds now locked =>
      obtain ⟨_, rfl⟩ := execClaim_eq_ok answered
      exact .claimed limit workerId leaseSeconds now locked
  | updatePublished eventId workerId now =>
      have sameWrites : (execUpdatePublished eventId workerId now db).2 =
          writes := congrArg Prod.snd (Except.ok.inj answered)
      rw [← sameWrites]
      apply writes_updateMatched
      · intro row matched
        exact lookup_id_of_leasedTo (Option.filter_eq_some_iff.mp matched).1
      · exact fun _ => rfl
      · exact fun _ => rfl
      · exact fun _ => rfl
  | updateFailed eventId workerId failure now =>
      have sameWrites : (execUpdateFailed eventId workerId failure now db).2 =
          writes := congrArg Prod.snd (Except.ok.inj answered)
      rw [← sameWrites]
      apply writes_updateMatched
      · exact fun row leased => lookup_id_of_leasedTo leased
      · exact fun row => by cases failure <;> rfl
      · exact fun row => by cases failure <;> rfl
      · exact fun row => by cases failure <;> rfl
  | insertAttempt record =>
      have inserted : execInsertAttempt record db = .ok (reply, writes) :=
        answered
      unfold execInsertAttempt at inserted
      split at inserted
      · cases inserted
      · split at inserted
        · cases inserted
        · split at inserted
          · cases inserted
          · cases inserted
            exact .recorded record
  | countBacklog =>
      cases answered
      exact .nothing

private theorem Writes.grows {db : OutboxDb} {writes : List Write}
    (written : Writes db writes) :
    Grows db (outboxSql.applyAll writes db) := by
  cases written with
  | nothing => exact Grows.refl db
  | inserted event now absent =>
      apply grows_put_event
      intro stored found
      exact absurd (absent.symm.trans found) (by simp)
  | claimed limit workerId leaseSeconds now locked => exact grows_claim
  | released found sameId sameAttempts noLease =>
      apply grows_put_event
      intro stored storedFound
      rw [sameId, found, Option.some.injEq] at storedFound
      rw [sameAttempts, storedFound]
  | recorded record => exact grows_put_delivery db record

private theorem Writes.leasesPending {db : OutboxDb} {writes : List Write}
    (written : Writes db writes) (pending : LeasesPending db) :
    LeasesPending (outboxSql.applyAll writes db) := by
  apply leasesPending_applyAll pending
  intro row member leased
  cases written with
  | nothing => cases member
  | inserted event now absent =>
      have same : row = newRow event now := by simpa using member
      rw [same]
      rfl
  | claimed limit workerId leaseSeconds now locked =>
      obtain ⟨original, _, same⟩ := List.mem_map.mp member
      cases same
      rfl
  | @released _ changed _ _ _ noLease =>
      have same : row = changed := by simpa using member
      rw [same, noLease] at leased
      cases leased
  | recorded record => simp at member

private theorem call_grows {α : Type} (program : Store α) (db : OutboxDb) :
    Grows db (program.call db).2 := by
  have kept : ∀ query state reply writes, Grows db state →
      outboxSql.exec query state = .ok (reply, writes) →
      Grows db (outboxSql.applyAll writes state) :=
    fun _ _ _ _ grown answered => grown.trans (exec_writes answered).grows
  exact Program.call_invariant kept program (Grows.refl db)

private theorem call_leasesPending
    {α : Type} (program : Store α) {db : OutboxDb}
    (pending : LeasesPending db) : LeasesPending (program.call db).2 := by
  have kept : ∀ query state reply writes, LeasesPending state →
      outboxSql.exec query state = .ok (reply, writes) →
      LeasesPending (outboxSql.applyAll writes state) :=
    fun _ _ _ _ stillPending answered =>
      (exec_writes answered).leasesPending stillPending
  exact Program.call_invariant kept program pending

/-- Rows keep their leases pending, and no event was handed out with more
attempts than its row has. -/
structure System.Coherent (system : System) : Prop where
  pending : LeasesPending system.db
  handed : ∀ workerId event, (workerId, event) ∈ system.handed →
    ∃ row, system.db.events.lookup event.id = some row ∧
      event.attempts ≤ row.attempts

private theorem System.coherent_initial (clock : Timestamp) :
    (System.initial clock).Coherent where
  pending := by
    intro row member
    cases member
  handed := by
    intro workerId event member
    cases member

/-- A call of which nothing is handed out keeps a system coherent. -/
theorem System.Coherent.call {system : System} (coherent : system.Coherent)
    {α : Type} (program : Store α) :
    System.Coherent { system with db := (program.call system.db).2 } where
  pending := call_leasesPending program coherent.pending
  handed := by
    intro workerId event member
    obtain ⟨row, found, atMost⟩ := coherent.handed workerId event member
    obtain ⟨grown, grownFound, more⟩ :=
      call_grows program system.db event.id row found
    exact ⟨grown, grownFound, atMost.trans more⟩

private theorem claim_handed {workerId : String} {batchSize : Int} {lease : Nat}
    {now : Timestamp} {locked : List Uuid} {db reached : OutboxDb}
    {events : List OutboxEvent}
    (claimed : (claim workerId batchSize lease now locked).call db =
      (.ok events, reached)) :
    ∀ event ∈ events, ∃ row, reached.events.lookup event.id = some row ∧
      row.attempts = event.attempts := by
  obtain ⟨final, ended, rfl⟩ := Program.call_eq_ok claimed
  obtain ⟨_, _, ran, ended⟩ := Program.eval_bind_eq_ok ended
  obtain ⟨_, rfl⟩ := Program.eval_check_eq_ok ran
  obtain ⟨handedOut, _, ran, ended⟩ := Program.eval_bind_eq_ok ended
  obtain ⟨writes, answered, rfl⟩ := Program.eval_statement_eq_ok ran
  obtain ⟨rfl, rfl⟩ := execClaim_eq_ok answered
  obtain ⟨_, _, ran, ended⟩ := Program.eval_bind_eq_ok ended
  obtain rfl := Program.eval_commitNow_eq_ok ran
  obtain ⟨rfl, rfl⟩ := Program.eval_pure_eq_ok ended
  exact fun event member => lookup_of_claimed member

private theorem System.Coherent.step
    {system : System} (coherent : system.Coherent)
    (action : Action) : (system.step action).Coherent := by
  cases action with
  | advanceClock instant => exact ⟨coherent.pending, coherent.handed⟩
  | enqueue event now =>
      rw [System.step]
      split
      · exact coherent.call _
      · exact coherent
  | claim workerId batchSize lease now locked =>
      rw [System.step]
      split
      · rcases ran : (PlatformEvents.claim workerId batchSize lease now
          locked).call system.db with ⟨outcome, db⟩
        have called := coherent.call
          (PlatformEvents.claim workerId batchSize lease now locked)
        rw [ran] at called
        cases outcome with
        | error failure => exact called
        | ok events =>
            refine ⟨called.pending, fun holder event member => ?_⟩
            rcases List.mem_append.mp member with old | new
            · exact called.handed holder event old
            · obtain ⟨claimed, isClaimed, same⟩ := List.mem_map.mp new
              cases same
              obtain ⟨row, found, sameAttempts⟩ :=
                claim_handed ran event isClaimed
              exact ⟨row, found, sameAttempts.ge⟩
      · exact coherent
  | complete workerId event completion now interrupted =>
      rw [System.step]
      split
      · exact coherent.call _
      · exact coherent

/-- Every state in which a run takes an action is coherent. -/
theorem System.Coherent.steps {system : System} (coherent : system.Coherent)
    (actions : List Action) :
    ∀ taken ∈ system.steps actions, taken.1.Coherent := by
  induction actions generalizing system with
  | nil =>
      intro taken member
      cases member
  | cons action rest inductionHypothesis =>
      intro taken member
      rcases List.mem_cons.mp member with rfl | later
      · exact coherent
      · exact inductionHypothesis (coherent.step action) taken later

section Completions

variable {workerId : String} {event : OutboxEvent} {now : Timestamp}
  {completion : Completion} {db : OutboxDb}

private theorem call_of_not_accepted (rejected : completion.accepted = false) :
    (completion.program workerId event now).call db =
      (.error .invalidFailure, db) := by
  cases completion with
  | published => cases rejected
  | failed errorCode maxAttempts retryAfter =>
      have checked : (!(isBlank errorCode || decide (maxAttempts ≤ 0))) =
          false := rejected
      rw [Completion.program, markFailed, checked]
      rfl

private theorem call_of_not_leased (accepted : completion.accepted = true)
    (notLeased : db.leasedTo event.id workerId = none) :
    (completion.program workerId event now).call db =
      (.error .leaseLost, db) := by
  cases completion with
  | published =>
      have answered :
          outboxSql.exec (.updatePublished event.id workerId now) db =
            .ok (0, []) := by
        simp [outboxSql, execUpdatePublished, updateMatched, notLeased]
      exact Program.call_of_eval (Program.eval_statement_bind_ok answered)
  | failed errorCode maxAttempts retryAfter =>
      have checked : (!(isBlank errorCode || decide (maxAttempts ≤ 0))) =
          true := accepted
      have answered (failure : Failure) :
          outboxSql.exec (.updateFailed event.id workerId failure now) db =
            .ok (0, []) := by
        simp [outboxSql, execUpdateFailed, updateMatched, notLeased]
      rw [Completion.program, markFailed, checked]
      exact Program.call_of_eval
        (Program.eval_statement_bind_ok (answered _))

/-- Recording a delivery and committing it either works or fails in the
database. -/
theorem eval_record_ne_leaseLost {α : Type} (record : DeliveryAttempt)
    (value : α) (connection : Connection outboxSql) :
    ((query (.insertAttempt record) >>= fun _ =>
        commit >>= fun _ => pure value).eval connection).1 ≠
      .error .leaseLost := by
  cases answered :
      outboxSql.exec (.insertAttempt record) connection.working with
  | error fault =>
      rw [query, Program.eval_statement_bind_error answered]
      simp
  | ok answer =>
      rw [query, Program.eval_statement_bind_ok answered]
      have committed :
          ((commit >>= fun _ => pure value : Store α).eval
            ⟨connection.committed,
              outboxSql.applyAll answer.2 connection.working⟩).1 =
            .ok value := rfl
      rw [committed]
      simp

/-- A completion that finds its worker's lease ends well or fails in the
database. -/
theorem call_of_leased {row : OutboxRow}
    (leased : db.leasedTo event.id workerId = some row)
    (pending : row.status = .pending) (accepted : completion.accepted = true) :
    ((completion.program workerId event now).call db).1 ≠
      .error .leaseLost := by
  cases completion with
  | published =>
      have answered :
          outboxSql.exec (.updatePublished event.id workerId now) db =
            .ok (1, [.event (publishRow now row)]) := by
        simp [outboxSql, execUpdatePublished, updateMatched, leased, pending,
          Option.filter]
      rw [Program.call_eq, Completion.program, markPublished, query,
        Program.eval_statement_bind_ok answered]
      exact eval_record_ne_leaseLost _ () _
  | failed errorCode maxAttempts retryAfter =>
      have checked : (!(isBlank errorCode || decide (maxAttempts ≤ 0))) =
          true := accepted
      have answered (failure : Failure) :
          outboxSql.exec (.updateFailed event.id workerId failure now) db =
            .ok (1, [.event (failRow failure now row)]) := by
        simp [outboxSql, execUpdateFailed, updateMatched, leased]
      rw [Program.call_eq, Completion.program, markFailed, checked]
      simp only [Program.check_true_bind, bind_assoc]
      rw [query, Program.eval_statement_bind_ok (answered _)]
      exact eval_record_ne_leaseLost _ () _

end Completions

private theorem leasedTo_eq_none_iff {db : OutboxDb} {eventId : Uuid}
    {workerId : String} {row : OutboxRow}
    (found : db.events.lookup eventId = some row) :
    db.leasedTo eventId workerId = none ↔
      ∀ lease ∈ row.lease, lease.owner ≠ workerId := by
  rw [OutboxDb.leasedTo, found]
  cases held : row.lease with
  | none => simp [Option.filter, held]
  | some lease => simp [Option.filter, held]

/-- In a coherent state a step is fenced exactly when it meets the
condition. -/
theorem System.Coherent.fenced_iff {system : System}
    (coherent : system.Coherent) (action : Action) :
    system.Fenced action ↔ system.NotReclaimed action := by
  cases action with
  | complete workerId event completion now interrupted =>
      simp only [Fenced, NotReclaimed]
      refine forall_congr' fun completes => forall₂_congr fun row found => ?_
      obtain ⟨stored, storedFound, atMost⟩ :=
        coherent.handed workerId event completes.1
      have same : stored = row :=
        Option.some.inj (storedFound.symm.trans found)
      rw [same] at atMost
      constructor
      · rintro ⟨_, superseded⟩ later
        obtain ⟨lost, _⟩ := superseded later.ne'
        cases accepted : completion.accepted with
        | false =>
            rw [call_of_not_accepted accepted] at lost
            cases lost
        | true =>
            refine ⟨rfl, ?_⟩
            rw [← leasedTo_eq_none_iff found]
            cases leased : system.db.leasedTo event.id workerId with
            | none => rfl
            | some holder =>
                obtain ⟨holderFound, lease, held, _⟩ := leasedTo_eq_some leased
                have pending := coherent.pending holder
                  (Table.mem_of_lookup holderFound)
                  (Option.isSome_of_eq_some held)
                exact absurd lost (call_of_leased leased pending accepted)
      · intro condition
        by_cases current : row.attempts = event.attempts
        · exact ⟨fun _ => current, fun superseded => absurd current superseded⟩
        · have later : event.attempts < row.attempts :=
            lt_of_le_of_ne atMost (Ne.symm current)
          obtain ⟨accepted, notHeld⟩ := condition later
          have notLeased := (leasedTo_eq_none_iff found).mpr notHeld
          rw [call_of_not_leased accepted notLeased]
          exact ⟨fun changed => absurd found changed, fun _ => ⟨rfl, rfl⟩⟩
  | _ => exact Iff.rfl

/-- In every run the completions are fenced exactly when none of them is made
while the row is leased to its own worker under a later attempt. -/
theorem run_fenced_iff (clock : Timestamp) (actions : List Action) :
    (∀ taken ∈ (System.initial clock).steps actions,
        taken.1.Fenced taken.2) ↔
      ∀ taken ∈ (System.initial clock).steps actions,
        taken.1.NotReclaimed taken.2 := by
  refine forall₂_congr fun taken member => ?_
  exact ((System.coherent_initial clock).steps actions taken
    member).fenced_iff taken.2

namespace Sample

def event : NewOutboxEvent :=
  { id := ⟨1⟩
    organizationId := ⟨2⟩
    aggregateType := "device"
    aggregateId := "00000000-0000-0000-0000-000000000003"
    eventType := "device.created"
    eventVersion := 1
    payload := .null
    correlationId := ⟨4⟩ }

/-- A worker stalls for 31 seconds while it publishes, and its dispatcher
claims the event again. -/
def reclaim : List Action :=
  [.enqueue event 0,
    .claim "dispatcher" 1 30 0 [],
    .advanceClock 31000000,
    .claim "dispatcher" 1 30 31000000 []]

def reclaimed : System := reclaim.foldl System.step (System.initial 0)

/-- The first attempt is completed after all. -/
def lateCompletion : Action :=
  .complete "dispatcher" ⟨event, 1⟩ .published 31000000 false

/-- The row as the second claim leaves it. -/
def secondAttempt : OutboxRow :=
  claimRow "dispatcher" 30 31000000
    (claimRow "dispatcher" 30 0 (newRow event 0))

end Sample

/-- The late completion of attempt 1 ends well and publishes the row, which is
leased under attempt 2. -/
theorem lateCompletion_not_fenced :
    ((markPublished "dispatcher" ⟨Sample.event, 1⟩ 31000000).call
        Sample.reclaimed.db).1 = .ok () ∧
      ¬ ∀ taken ∈ (System.initial 0).steps
          (Sample.reclaim ++ [Sample.lateCompletion]),
        taken.1.Fenced taken.2 := by
  refine ⟨by decide, fun allFenced => ?_⟩
  have taken : (Sample.reclaimed, Sample.lateCompletion) ∈
      (System.initial 0).steps
        (Sample.reclaim ++ [Sample.lateCompletion]) := by
    simp [Sample.reclaim, Sample.reclaimed, System.steps]
  have fenced := allFenced _ taken
  have completes :
      Sample.reclaimed.Completes "dispatcher" ⟨Sample.event, 1⟩ 31000000
        false := by
    decide
  have found :
      Sample.reclaimed.db.events.lookup Sample.event.id =
        some Sample.secondAttempt := by
    decide
  have changed :
      ((markPublished "dispatcher" ⟨Sample.event, 1⟩ 31000000).call
        Sample.reclaimed.db).2.events.lookup Sample.event.id ≠
          some Sample.secondAttempt := by
    decide
  have current := (fenced completes _ found).1 changed
  exact absurd current (by decide)

end NetworkManager.PlatformEvents
