import NetworkManager.PlatformEvents.Fencing

/-!
# The outbox over whole runs

Callers enqueue events, claim them and complete them, and the clock goes on.
Each call is a transaction that may fail at any statement or at its commit, and
a caller that never comes back is one whose next call is not in the run.  A log
keeps what was committed.

A claim is one statement, so it happens at the time of the clock.  The
transaction of a completion has a beginning, which may lie some time back: that
is what `now()` is in it.
-/

namespace NetworkManager.PlatformEvents

open NetworkManager.Foundation
open NetworkManager.Transaction

/-- A claim that was committed, and the events it returned. -/
structure ClaimCall where
  workerId : String
  instant : Timestamp
  leaseSeconds : Int
  events : List OutboxEvent
deriving DecidableEq

def ClaimCall.Returns (call : ClaimCall) (eventId : Uuid) : Prop :=
  ∃ event ∈ call.events, event.id = eventId

instance (call : ClaimCall) (eventId : Uuid) :
    Decidable (call.Returns eventId) := by
  unfold ClaimCall.Returns
  infer_instance

inductive Entry where
  | enqueued (eventId : Uuid)
  | claimed (call : ClaimCall)
  | completed (workerId : String) (event : OutboxEvent)
      (completion : Completion)
deriving DecidableEq

/-- The entry is about the event. -/
def Entry.Concerns (eventId : Uuid) : Entry → Prop
  | .enqueued enqueuedId => enqueuedId = eventId
  | .claimed call => call.Returns eventId
  | .completed _ event _ => event.id = eventId

def Entry.claimOf (eventId : Uuid) : Entry → Option ClaimCall
  | .claimed call => if call.Returns eventId then some call else none
  | _ => none

/-- The claims that returned an event, the last one first. -/
def claimsOf (eventId : Uuid) (log : List Entry) : List ClaimCall :=
  log.filterMap (Entry.claimOf eventId)

theorem claimOf_of_not_concerns {eventId : Uuid} {entry : Entry}
    (other : ¬entry.Concerns eventId) : entry.claimOf eventId = none := by
  cases entry with
  | claimed call => exact if_neg other
  | _ => rfl

theorem claimsOf_cons_of_none {eventId : Uuid} {entry : Entry}
    (noClaim : entry.claimOf eventId = none) (log : List Entry) :
    claimsOf eventId (entry :: log) = claimsOf eventId log :=
  List.filterMap_cons_none noClaim

theorem claimsOf_cons_of_not_concerns {eventId : Uuid} {entry : Entry}
    (other : ¬entry.Concerns eventId) (log : List Entry) :
    claimsOf eventId (entry :: log) = claimsOf eventId log :=
  claimsOf_cons_of_none (claimOf_of_not_concerns other) log

theorem claimsOf_claimed {eventId : Uuid} {call : ClaimCall}
    (returned : call.Returns eventId) (log : List Entry) :
    claimsOf eventId (.claimed call :: log) = call :: claimsOf eventId log :=
  List.filterMap_cons_some (if_pos returned)

theorem mem_claimsOf {eventId : Uuid} {log : List Entry} {call : ClaimCall} :
    call ∈ claimsOf eventId log ↔ .claimed call ∈ log ∧ call.Returns eventId := by
  rw [claimsOf, List.mem_filterMap]
  constructor
  · rintro ⟨entry, member, claimed⟩
    cases entry with
    | claimed other =>
        rw [Entry.claimOf] at claimed
        split_ifs at claimed with returned
        cases claimed
        exact ⟨member, returned⟩
    | _ => cases claimed
  · rintro ⟨member, returned⟩
    exact ⟨.claimed call, member, if_pos returned⟩

/-- The log is in the order of the commits, the last one first. -/
structure Ledger where
  clock : Timestamp
  db : OutboxDb
  log : List Entry

inductive Operation where
  | advanceClock (instant : Timestamp)
  | enqueue (event : NewOutboxEvent) (began : Timestamp)
      (plan : List (Option SqlError))
  | claim (workerId : String) (batchSize : Int) (lease : Nat)
      (locked : List Uuid) (plan : List (Option SqlError))
  | complete (workerId : String) (event : OutboxEvent)
      (completion : Completion) (began : Timestamp)
      (plan : List (Option SqlError))

namespace Ledger

def initial (clock : Timestamp) : Ledger := ⟨clock, .empty, []⟩

/-- A claim has given the event to the worker, before the transaction of its
completion began. -/
def MayComplete (ledger : Ledger) (workerId : String) (event : OutboxEvent)
    (began : Timestamp) : Prop :=
  began ≤ ledger.clock ∧ ∃ entry ∈ ledger.log, match entry with
    | .claimed call => call.workerId = workerId ∧ event ∈ call.events ∧
        call.instant ≤ began
    | _ => False

instance (ledger : Ledger) (workerId : String) (event : OutboxEvent)
    (began : Timestamp) :
    Decidable (ledger.MayComplete workerId event began) :=
  have (entry : Entry) : Decidable (match entry with
      | .claimed call => call.workerId = workerId ∧ event ∈ call.events ∧
          call.instant ≤ began
      | _ => False) := by
    cases entry <;> infer_instance
  inferInstanceAs (Decidable (_ ∧ _))

/-- The state after a call, and what it adds to the log if it is committed. -/
def commit {α : Type} (ledger : Ledger) (program : Store α)
    (plan : List (Option SqlError)) (entry : α → Entry) : Ledger :=
  match program.callFaulty plan ledger.db with
  | (.error _, db) => { ledger with db }
  | (.ok value, db) => { ledger with db, log := entry value :: ledger.log }

/-- An operation that cannot take place changes nothing. -/
def step (ledger : Ledger) : Operation → Ledger
  | .advanceClock instant => { ledger with clock := max ledger.clock instant }
  | .enqueue event began plan =>
      if began ≤ ledger.clock then
        ledger.commit (enqueue event began >>= fun _ => PlatformEvents.commit)
          plan fun _ => .enqueued event.id
      else
        ledger
  | .claim workerId batchSize lease locked plan =>
      ledger.commit (claim workerId batchSize lease ledger.clock locked) plan
        fun events => .claimed
          ⟨workerId, ledger.clock, clamp lease 1 300, events⟩
  | .complete workerId event completion began plan =>
      if ledger.MayComplete workerId event began then
        ledger.commit (completion.program workerId event began) plan
          fun _ => .completed workerId event completion
      else
        ledger

def run (ledger : Ledger) (operations : List Operation) : Ledger :=
  operations.foldl step ledger

/-- The operation is a call that is committed. -/
def Commits (ledger : Ledger) (operation : Operation) : Prop :=
  (ledger.step operation).log ≠ ledger.log

instance (ledger : Ledger) (operation : Operation) :
    Decidable (ledger.Commits operation) := by
  unfold Commits
  infer_instance

/-- Each operation of a run, with the state in which it takes place. -/
def steps : Ledger → List Operation → List (Ledger × Operation)
  | _, [] => []
  | ledger, operation :: rest =>
      (ledger, operation) :: steps (ledger.step operation) rest

end Ledger

/-! ## What a call does when it is committed -/

/-- What a completion makes of the row. -/
def Completion.settle (completion : Completion) (event : OutboxEvent)
    (began : Timestamp) : OutboxRow → OutboxRow :=
  match completion with
  | .published => publishRow began
  | .failed errorCode maxAttempts retryAfter =>
      failRow (if decide (maxAttempts ≤ event.attempts) then
        .deadLetter errorCode
      else
        .retry errorCode (clamp retryAfter 1 3600)) began

/-- The record of a completion. -/
def Completion.record (workerId : String) (event : OutboxEvent) :
    Completion → DeliveryAttempt
  | .published => ⟨event.id, event.attempts, workerId, .published, none⟩
  | .failed errorCode maxAttempts _ =>
      ⟨event.id, event.attempts, workerId,
        if decide (maxAttempts ≤ event.attempts) then .deadLetter else .retry,
        some errorCode⟩

theorem settle_id (completion : Completion) (event : OutboxEvent)
    (began : Timestamp) (row : OutboxRow) :
    (completion.settle event began row).id = row.id := by
  cases completion with
  | published => rfl
  | failed errorCode maxAttempts retryAfter =>
      rw [Completion.settle]
      split_ifs <;> rfl

theorem settle_lease (completion : Completion) (event : OutboxEvent)
    (began : Timestamp) (row : OutboxRow) :
    (completion.settle event began row).lease = none := by
  cases completion with
  | published => rfl
  | failed errorCode maxAttempts retryAfter =>
      rw [Completion.settle]
      split_ifs <;> rfl

theorem settle_attempts (completion : Completion) (event : OutboxEvent)
    (began : Timestamp) (row : OutboxRow) :
    (completion.settle event began row).attempts = row.attempts := by
  cases completion with
  | published => rfl
  | failed errorCode maxAttempts retryAfter =>
      rw [Completion.settle]
      split_ifs <;> rfl

theorem record_eventId (workerId : String) (event : OutboxEvent)
    (completion : Completion) :
    (completion.record workerId event).eventId = event.id := by
  cases completion <;> rfl

theorem record_attempt (workerId : String) (event : OutboxEvent)
    (completion : Completion) :
    (completion.record workerId event).attempt = event.attempts := by
  cases completion <;> rfl

private theorem record_key (workerId : String) (event : OutboxEvent)
    (completion : Completion) :
    (completion.record workerId event).key = (event.id, event.attempts) :=
  Prod.ext (record_eventId ..) (record_attempt ..)

/-- The database after a claim. -/
def OutboxDb.claimed (db : OutboxDb) (limit : Nat) (workerId : String)
    (leaseSeconds : Int) (now : Timestamp) (locked : List Uuid) : OutboxDb :=
  outboxSql.applyAll ((picked limit now locked db).map fun row =>
    .event (claimRow workerId leaseSeconds now row)) db

/-- The database after a completion. -/
def OutboxDb.completed (db : OutboxDb) (row : OutboxRow) (workerId : String)
    (event : OutboxEvent) (completion : Completion) (began : Timestamp) :
    OutboxDb :=
  ⟨db.events.put (completion.settle event began row),
    db.deliveries.put (completion.record workerId event)⟩

section Calls

variable {db reached : OutboxDb}

private theorem commitsLast_enqueue
    (event : NewOutboxEvent) (began : Timestamp) :
    (enqueue event began >>= fun _ => commit).CommitsLast :=
  (commitFree_enqueue event began).bind_commitsLast fun _ =>
    Program.commitsLast_commitNow_bind _ ()

private theorem commitsLast_claim
    (workerId : String) (batchSize : Int) (lease : Nat)
    (now : Timestamp) (locked : List Uuid) :
    (claim workerId batchSize lease now locked).CommitsLast := by
  apply (Program.commitFree_check _ _).bind_commitsLast
  intro _
  apply (Program.commitFree_statement _ _).bind_commitsLast
  intro events
  exact Program.commitsLast_commitNow_bind _ events

private theorem commitsLast_markPublished
    (workerId : String) (event : OutboxEvent)
    (now : Timestamp) : (markPublished workerId event now).CommitsLast := by
  apply (Program.commitFree_statement _ _).bind_commitsLast
  intro _
  apply (Program.commitFree_check _ _).bind_commitsLast
  intro _
  apply (Program.commitFree_statement _ _).bind_commitsLast
  intro _
  exact Program.commitsLast_commitNow_bind _ ()

private theorem commitsLast_markFailed (workerId : String) (event : OutboxEvent)
    (errorCode : String) (maxAttempts : Int) (retryAfter : Nat)
    (now : Timestamp) :
    (markFailed workerId event errorCode maxAttempts retryAfter
      now).CommitsLast := by
  apply (Program.commitFree_check _ _).bind_commitsLast
  intro _
  apply (Program.commitFree_statement _ _).bind_commitsLast
  intro _
  apply (Program.commitFree_check _ _).bind_commitsLast
  intro _
  apply (Program.commitFree_statement _ _).bind_commitsLast
  intro _
  exact Program.commitsLast_commitNow_bind _ _

private theorem commitsLast_completion
    (completion : Completion) (workerId : String)
    (event : OutboxEvent) (began : Timestamp) :
    (completion.program workerId event began).CommitsLast := by
  cases completion with
  | published => exact commitsLast_markPublished workerId event began
  | failed errorCode maxAttempts retryAfter =>
      exact (commitsLast_markFailed workerId event errorCode maxAttempts
        retryAfter began).bind_pure fun _ => ()

/-- A committed enqueue has added a new row. -/
theorem enqueue_eq_ok {event : NewOutboxEvent} {began : Timestamp}
    (ended : (enqueue event began >>= fun _ => commit).call db =
      (.ok (), reached)) :
    db.events.lookup event.id = none ∧
      reached = { db with events := db.events.put (newRow event began) } := by
  obtain ⟨final, evaluated, rfl⟩ := Program.call_eq_ok ended
  obtain ⟨_, _, ran, committed⟩ := Program.eval_bind_eq_ok evaluated
  obtain rfl := Program.eval_commitNow_eq_ok committed
  obtain ⟨_, _, checked, ran⟩ := Program.eval_bind_eq_ok ran
  obtain ⟨_, rfl⟩ := Program.eval_ofExcept_eq_ok checked
  obtain ⟨writes, answered, rfl⟩ := Program.eval_statement_eq_ok ran
  have inserted : execInsertEvent event began db = .ok ((), writes) := answered
  rw [execInsertEvent] at inserted
  split_ifs at inserted with present invalid
  cases inserted
  exact ⟨Option.not_isSome_iff_eq_none.mp present, rfl⟩

/-- A committed claim has claimed the rows that it picked. -/
theorem claim_eq_ok {workerId : String} {batchSize : Int} {lease : Nat}
    {now : Timestamp} {locked : List Uuid} {events : List OutboxEvent}
    (ended : (claim workerId batchSize lease now locked).call db =
      (.ok events, reached)) :
    events = (picked (clamp batchSize 1 250).toNat now locked db).map
        (fun row => rowToEvent
          (claimRow workerId (clamp lease 1 300) now row)) ∧
      reached = db.claimed (clamp batchSize 1 250).toNat workerId
        (clamp lease 1 300) now locked := by
  obtain ⟨final, evaluated, rfl⟩ := Program.call_eq_ok ended
  obtain ⟨_, _, ran, rest⟩ := Program.eval_bind_eq_ok evaluated
  obtain ⟨_, rfl⟩ := Program.eval_check_eq_ok ran
  obtain ⟨handedOut, _, ran, rest⟩ := Program.eval_bind_eq_ok rest
  obtain ⟨writes, answered, rfl⟩ := Program.eval_statement_eq_ok ran
  obtain ⟨rfl, rfl⟩ := execClaim_eq_ok answered
  obtain ⟨_, _, ran, rest⟩ := Program.eval_bind_eq_ok rest
  obtain rfl := Program.eval_commitNow_eq_ok ran
  obtain ⟨rfl, rfl⟩ := Program.eval_pure_eq_ok rest
  exact ⟨rfl, rfl⟩

private theorem updateMatched_eq_one {matched : Option OutboxRow}
    {change : OutboxRow → OutboxRow} {updated : Nat} {writes : List Write}
    (answered : updateMatched matched change = (updated, writes))
    (isOne : (updated == 1) = true) :
    ∃ row, matched = some row ∧ writes = [.event (change row)] := by
  cases matched with
  | none =>
      cases answered
      cases isOne
  | some row =>
      cases answered
      exact ⟨row, rfl, rfl⟩

private theorem execInsertAttempt_eq_ok
    {record : DeliveryAttempt} {reply : Unit}
    {writes : List Write}
    (answered : execInsertAttempt record db = .ok (reply, writes)) :
    db.deliveries.lookup record.key = none ∧ 0 < record.attempt ∧
      writes = [.delivery record] := by
  rw [execInsertAttempt] at answered
  split_ifs at answered with present noEvent notPositive
  cases answered
  exact ⟨Option.not_isSome_iff_eq_none.mp present, Int.not_le.mp notPositive,
    rfl⟩

/-- A committed completion has found the lease of its worker and an attempt
that was not recorded, and has settled the row and recorded the attempt. -/
theorem completion_eq_ok {completion : Completion} {workerId : String}
    {event : OutboxEvent} {began : Timestamp}
    (ended : (completion.program workerId event began).call db =
      (.ok (), reached)) :
    ∃ row, db.leasedTo event.id workerId = some row ∧
      db.deliveries.lookup (event.id, event.attempts) = none ∧
      0 < event.attempts ∧
      reached = db.completed row workerId event completion began := by
  obtain ⟨final, evaluated, rfl⟩ := Program.call_eq_ok ended
  cases completion with
  | published =>
      obtain ⟨updated, _, ran, marked⟩ := Program.eval_bind_eq_ok evaluated
      obtain ⟨writes, answered, rfl⟩ := Program.eval_statement_eq_ok ran
      obtain ⟨_, _, ran, marked⟩ := Program.eval_bind_eq_ok marked
      obtain ⟨isOne, rfl⟩ := Program.eval_check_eq_ok ran
      obtain ⟨row, matched, rfl⟩ :=
        updateMatched_eq_one (Except.ok.inj answered) isOne
      obtain ⟨_, _, ran, marked⟩ := Program.eval_bind_eq_ok marked
      obtain ⟨writes, answered, rfl⟩ := Program.eval_statement_eq_ok ran
      obtain ⟨absent, positive, rfl⟩ := execInsertAttempt_eq_ok answered
      obtain rfl := Program.eval_commitNow_eq_ok marked
      exact ⟨row, (Option.filter_eq_some_iff.mp matched).1, absent, positive,
        rfl⟩
  | failed errorCode maxAttempts retryAfter =>
      obtain ⟨_, _, marked, rest⟩ := Program.eval_bind_eq_ok evaluated
      obtain ⟨_, rfl⟩ := Program.eval_pure_eq_ok rest
      obtain ⟨_, _, ran, marked⟩ := Program.eval_bind_eq_ok marked
      obtain ⟨_, rfl⟩ := Program.eval_check_eq_ok ran
      obtain ⟨updated, _, ran, marked⟩ := Program.eval_bind_eq_ok marked
      obtain ⟨writes, answered, rfl⟩ := Program.eval_statement_eq_ok ran
      obtain ⟨_, _, ran, marked⟩ := Program.eval_bind_eq_ok marked
      obtain ⟨isOne, rfl⟩ := Program.eval_check_eq_ok ran
      obtain ⟨row, leased, rfl⟩ :=
        updateMatched_eq_one (Except.ok.inj answered) isOne
      obtain ⟨_, _, ran, marked⟩ := Program.eval_bind_eq_ok marked
      obtain ⟨writes, answered, rfl⟩ := Program.eval_statement_eq_ok ran
      obtain ⟨absent, positive, rfl⟩ := execInsertAttempt_eq_ok answered
      obtain ⟨_, _, ran, marked⟩ := Program.eval_bind_eq_ok marked
      obtain rfl := Program.eval_commitNow_eq_ok ran
      obtain ⟨_, rfl⟩ := Program.eval_pure_eq_ok marked
      exact ⟨row, leased, absent, positive, rfl⟩

end Calls

/-! ## What a step does -/

/-- A claim leaves a row claimed or untouched. -/
theorem lookup_claimed {db : OutboxDb} {limit : Nat} {workerId : String}
    {leaseSeconds : Int} {now : Timestamp} {locked : List Uuid} {id : Uuid}
    {row : OutboxRow}
    (found : (db.claimed limit workerId leaseSeconds now
      locked).events.lookup id = some row) :
    (∃ old ∈ picked limit now locked db, old.id = id ∧
        row = claimRow workerId leaseSeconds now old) ∨
      (db.events.lookup id = some row ∧
        ∀ old ∈ picked limit now locked db, old.id ≠ id) := by
  rw [OutboxDb.claimed, lookup_applyAll_claim] at found
  cases picking : (picked limit now locked db).find? fun row => row.id = id with
  | none =>
      rw [picking] at found
      refine Or.inr ⟨found, fun old member same => ?_⟩
      exact List.find?_eq_none.mp picking old member (decide_eq_true same)
  | some old =>
      rw [picking] at found
      exact Or.inl ⟨old, List.mem_of_find?_eq_some picking,
        of_decide_eq_true (List.find?_some picking :),
        (Option.some.inj found).symm⟩

theorem lookup_claimed_of_mem_picked {db : OutboxDb} {limit : Nat}
    {workerId : String} {leaseSeconds : Int} {now : Timestamp}
    {locked : List Uuid} {row : OutboxRow}
    (isPicked : row ∈ picked limit now locked db) :
    (db.claimed limit workerId leaseSeconds now locked).events.lookup row.id =
      some (claimRow workerId leaseSeconds now row) := by
  have found : (picked limit now locked db).find?
      (fun other => other.id = row.id) = some row :=
    Table.find?_eq_of_mem (nodup_picked limit now locked db) isPicked
  rw [OutboxDb.claimed, lookup_applyAll_claim, found]
  rfl

/-- The events that a claim returns. -/
def claimedEvents (limit : Nat) (workerId : String) (leaseSeconds : Int)
    (now : Timestamp) (locked : List Uuid) (db : OutboxDb) :
    List OutboxEvent :=
  (picked limit now locked db).map fun row =>
    rowToEvent (claimRow workerId leaseSeconds now row)

namespace Ledger

/-- A claim that picks its rows now. -/
def claimCall (ledger : Ledger) (limit : Nat) (workerId : String)
    (leaseSeconds : Int) (locked : List Uuid) : ClaimCall where
  workerId
  instant := ledger.clock
  leaseSeconds
  events := claimedEvents limit workerId leaseSeconds ledger.clock locked
    ledger.db

theorem returns_claimCall {ledger : Ledger} {limit : Nat} {workerId : String}
    {leaseSeconds : Int} {locked : List Uuid} {id : Uuid} :
    (ledger.claimCall limit workerId leaseSeconds locked).Returns id ↔
      ∃ row ∈ picked limit ledger.clock locked ledger.db, row.id = id := by
  constructor
  · rintro ⟨event, member, same⟩
    obtain ⟨row, isPicked, rfl⟩ := List.mem_map.mp member
    exact ⟨row, isPicked, same⟩
  · rintro ⟨row, isPicked, same⟩
    exact ⟨_, List.mem_map_of_mem isPicked, same⟩

/-- A step waits, or commits one of the three calls. -/
inductive Moves (ledger : Ledger) : Operation → Ledger → Prop
  | waits (operation : Operation) {clock : Timestamp} :
      ledger.clock ≤ clock → Moves ledger operation { ledger with clock }
  | enqueues {event : NewOutboxEvent} (began : Timestamp)
      (plan : List (Option SqlError)) :
      ledger.db.events.lookup event.id = none →
      Moves ledger (.enqueue event began plan)
        { ledger with
          db := { ledger.db with
            events := ledger.db.events.put (newRow event began) }
          log := .enqueued event.id :: ledger.log }
  | claims (workerId : String) (batchSize : Int) (lease : Nat)
      (locked : List Uuid) (plan : List (Option SqlError)) :
      Moves ledger (.claim workerId batchSize lease locked plan)
        { ledger with
          db := ledger.db.claimed (clamp batchSize 1 250).toNat workerId
            (clamp lease 1 300) ledger.clock locked
          log := .claimed (ledger.claimCall (clamp batchSize 1 250).toNat
            workerId (clamp lease 1 300) locked) :: ledger.log }
  | completes {workerId : String} {event : OutboxEvent}
      (completion : Completion) {began : Timestamp}
      (plan : List (Option SqlError)) {row : OutboxRow} :
      ledger.MayComplete workerId event began →
      ledger.db.leasedTo event.id workerId = some row →
      ledger.db.deliveries.lookup (event.id, event.attempts) = none →
      0 < event.attempts →
      Moves ledger (.complete workerId event completion began plan)
        { ledger with
          db := ledger.db.completed row workerId event completion began
          log := .completed workerId event completion :: ledger.log }

theorem Moves.stays (ledger : Ledger) (operation : Operation) :
    ledger.Moves operation ledger :=
  .waits operation le_rfl

/-- A call that is not committed changes nothing. -/
theorem commit_cases {α : Type} (ledger : Ledger) {program : Store α}
    (commitsLast : program.CommitsLast) (plan : List (Option SqlError))
    (entry : α → Entry) :
    (∃ failure, (program.callFaulty plan ledger.db).1 = .error failure ∧
        ledger.commit program plan entry = ledger) ∨
      ∃ value db, (program.callFaulty plan ledger.db).1 = .ok value ∧
        program.call ledger.db = (.ok value, db) ∧
        ledger.commit program plan entry =
          { ledger with db, log := entry value :: ledger.log } := by
  rw [commit]
  rcases ended : program.callFaulty plan ledger.db with ⟨outcome, db⟩
  cases outcome with
  | error failure =>
      refine Or.inl ⟨failure, rfl, ?_⟩
      rw [Program.callFaulty_error commitsLast ended]
  | ok value =>
      exact Or.inr ⟨value, db, rfl, Program.callFaulty_ok ended, rfl⟩

/-- A claim fails, or it returns the rows that it has picked. -/
theorem step_claim_cases (ledger : Ledger) (workerId : String)
    (batchSize : Int) (lease : Nat) (locked : List Uuid)
    (plan : List (Option SqlError)) :
    (∃ failure, ((PlatformEvents.claim workerId batchSize lease ledger.clock
          locked).callFaulty plan ledger.db).1 = .error failure ∧
        ledger.step (.claim workerId batchSize lease locked plan) = ledger) ∨
      ((PlatformEvents.claim workerId batchSize lease ledger.clock
          locked).callFaulty plan ledger.db).1 =
          .ok (ledger.claimCall (clamp batchSize 1 250).toNat workerId
            (clamp lease 1 300) locked).events ∧
        ledger.step (.claim workerId batchSize lease locked plan) =
          { ledger with
            db := ledger.db.claimed (clamp batchSize 1 250).toNat workerId
              (clamp lease 1 300) ledger.clock locked
            log := .claimed (ledger.claimCall (clamp batchSize 1 250).toNat
              workerId (clamp lease 1 300) locked) :: ledger.log } := by
  rw [step]
  rcases ledger.commit_cases
    (commitsLast_claim workerId batchSize lease ledger.clock locked) plan
    (fun events => .claimed
      ⟨workerId, ledger.clock, clamp lease 1 300, events⟩) with
    lost | ⟨events, db, outcome, ended, reached⟩
  · exact Or.inl lost
  · obtain ⟨rfl, rfl⟩ := claim_eq_ok ended
    exact Or.inr ⟨outcome, reached⟩

theorem step_moves (ledger : Ledger) (operation : Operation) :
    ledger.Moves operation (ledger.step operation) := by
  cases operation with
  | advanceClock instant => exact .waits _ (le_max_left _ _)
  | enqueue event began plan =>
      rw [step]
      split_ifs with past
      · rcases ledger.commit_cases (commitsLast_enqueue event began) plan
          (fun _ => .enqueued event.id) with
          ⟨_, _, same⟩ | ⟨_, db, _, ended, reached⟩
        · rw [same]
          exact .stays ledger _
        · obtain ⟨absent, rfl⟩ := enqueue_eq_ok ended
          rw [reached]
          exact .enqueues began plan absent
      · exact .stays ledger _
  | claim workerId batchSize lease locked plan =>
      rcases ledger.step_claim_cases workerId batchSize lease locked plan with
        ⟨_, _, same⟩ | ⟨_, reached⟩
      · rw [same]
        exact .stays ledger _
      · rw [reached]
        exact .claims workerId batchSize lease locked plan
  | complete workerId event completion began plan =>
      rw [step]
      split_ifs with may
      · rcases ledger.commit_cases
          (commitsLast_completion completion workerId event began) plan
          (fun _ => .completed workerId event completion) with
          ⟨_, _, same⟩ | ⟨_, db, _, ended, reached⟩
        · rw [same]
          exact .stays ledger _
        · obtain ⟨row, leased, absent, positive, rfl⟩ := completion_eq_ok ended
          rw [reached]
          exact .completes completion plan may leased absent positive
      · exact .stays ledger _

/-- Where no call is committed, the clock at most goes on. -/
theorem commits_or_waits (ledger : Ledger) (operation : Operation) :
    ledger.Commits operation ∨ ∃ instant,
      ledger.Moves (.advanceClock instant) (ledger.step operation) := by
  have moves := ledger.step_moves operation
  rw [Commits]
  generalize ledger.step operation = reached at moves
  cases moves with
  | @waits _ clock later => exact Or.inr ⟨clock, .waits _ later⟩
  | enqueues _ _ _ => exact Or.inl (List.cons_ne_self _ _)
  | claims _ _ _ _ _ => exact Or.inl (List.cons_ne_self _ _)
  | completes _ _ _ _ _ _ => exact Or.inl (List.cons_ne_self _ _)

/-- A completion in the log is an old one, or the one that is committed. -/
theorem Moves.mem_completed {ledger reached : Ledger} {operation : Operation}
    (moves : ledger.Moves operation reached) {workerId : String}
    {event : OutboxEvent} {completion : Completion}
    (logged : .completed workerId event completion ∈ reached.log) :
    .completed workerId event completion ∈ ledger.log ∨
      ∃ began plan,
        operation = .complete workerId event completion began plan := by
  cases moves with
  | waits _ _ => exact Or.inl logged
  | enqueues _ _ _ => exact Or.inl (by simpa using logged)
  | claims _ _ _ _ _ => exact Or.inl (by simpa using logged)
  | completes completion plan _ _ _ _ =>
      rcases List.mem_cons.mp logged with new | old
      · cases new
        exact Or.inr ⟨_, plan, rfl⟩
      · exact Or.inl old

/-- What holds at the start, and is kept by every step that meets a condition,
holds at the end of every run whose committed calls meet it. -/
theorem invariant_of_commits {holds : Ledger → Prop}
    (allowed : Ledger → Operation → Prop)
    (free : ∀ ledger instant, allowed ledger (.advanceClock instant))
    (kept : ∀ {ledger operation reached}, ledger.Moves operation reached →
      allowed ledger operation → holds ledger → holds reached) :
    ∀ {ledger : Ledger} {operations : List Operation},
      (∀ taken ∈ ledger.steps operations, taken.1.Commits taken.2 →
        allowed taken.1 taken.2) →
      holds ledger → holds (ledger.run operations)
  | _, [], _, start => start
  | ledger, operation :: rest, everyStep, start => by
      have next : holds (ledger.step operation) := by
        rcases ledger.commits_or_waits operation with commits | ⟨_, waits⟩
        · exact kept (ledger.step_moves operation)
            (everyStep _ (List.mem_cons_self ..) commits) start
        · exact kept waits (free ledger _) start
      have later : ∀ taken ∈ (ledger.step operation).steps rest,
          taken.1.Commits taken.2 → allowed taken.1 taken.2 :=
        fun taken member => everyStep taken (List.mem_cons_of_mem _ member)
      have atEnd := invariant_of_commits allowed free kept later next
      exact atEnd

/-- What every step keeps, every run keeps. -/
theorem invariant_of_moves {holds : Ledger → Prop}
    (kept : ∀ {ledger operation reached}, ledger.Moves operation reached →
      holds ledger → holds reached)
    {ledger : Ledger} (start : holds ledger) (operations : List Operation) :
    holds (ledger.run operations) :=
  invariant_of_commits (fun _ _ => True) (fun _ _ => trivial)
    (fun moves _ => kept moves) (fun _ _ _ => trivial) start

end Ledger

/-- The records of the deliveries of an event, the first one first. -/
def recordsOf (id : Uuid) (db : OutboxDb) : List DeliveryAttempt :=
  db.deliveries.rows.filter fun record => record.eventId = id

private theorem recordsOf_put {db : OutboxDb} {record : DeliveryAttempt}
    (events : Table Uuid OutboxRow OutboxRow.id)
    (absent : db.deliveries.lookup record.key = none) (id : Uuid) :
    recordsOf id ⟨events, db.deliveries.put record⟩ =
      recordsOf id db ++ if record.eventId = id then [record] else [] := by
  rw [recordsOf, Table.rows_put_of_lookup_none absent, List.filter_append]
  by_cases same : record.eventId = id <;> simp [recordsOf, same]

theorem deliveries_applyAll_events (rows : List OutboxRow) :
    ∀ db : OutboxDb,
      (outboxSql.applyAll (rows.map .event) db).deliveries = db.deliveries := by
  induction rows with
  | nil => exact fun _ => rfl
  | cons row rest inductionHypothesis =>
      exact fun db => inductionHypothesis (applyWrite (.event row) db)

private theorem recordsOf_claimed
    (db : OutboxDb) (limit : Nat) (workerId : String)
    (leaseSeconds : Int) (now : Timestamp) (locked : List Uuid) (id : Uuid) :
    recordsOf id (db.claimed limit workerId leaseSeconds now locked) =
      recordsOf id db := by
  have sameDeliveries := deliveries_applyAll_events
    ((picked limit now locked db).map (claimRow workerId leaseSeconds now)) db
  rw [List.map_map] at sameDeliveries
  exact congrArg (fun table => List.filter _ table.rows) sameDeliveries

namespace Ledger

/-- How a step leaves the row of an event and the records of its
deliveries. -/
inductive RowMoves (ledger : Ledger) (operation : Operation) (id : Uuid) :
    OutboxRow → Ledger → Prop
  | waits {row : OutboxRow} {clock : Timestamp} :
      ledger.clock ≤ clock → ledger.db.events.lookup id = some row →
      RowMoves ledger operation id row { ledger with clock }
  | passed {row : OutboxRow} {db : OutboxDb} {entry : Entry} :
      ledger.db.events.lookup id = some row → ¬entry.Concerns id →
      recordsOf id db = recordsOf id ledger.db →
      RowMoves ledger operation id row ⟨ledger.clock, db, entry :: ledger.log⟩
  | enqueued {event : NewOutboxEvent} {began : Timestamp} {db : OutboxDb} :
      ledger.db.events.lookup id = none → event.id = id →
      recordsOf id db = recordsOf id ledger.db →
      RowMoves ledger operation id (newRow event began)
        ⟨ledger.clock, db, .enqueued id :: ledger.log⟩
  | claimed {workerId : String} {batchSize : Int} {lease : Nat}
      {locked : List Uuid} {plan : List (Option SqlError)} {old : OutboxRow}
      {db : OutboxDb} :
      operation = .claim workerId batchSize lease locked plan →
      ledger.db.events.lookup id = some old →
      old ∈ picked (clamp batchSize 1 250).toNat ledger.clock locked
        ledger.db →
      recordsOf id db = recordsOf id ledger.db →
      RowMoves ledger operation id
        (claimRow workerId (clamp lease 1 300) ledger.clock old)
        ⟨ledger.clock, db, .claimed
          (ledger.claimCall (clamp batchSize 1 250).toNat workerId
            (clamp lease 1 300) locked) :: ledger.log⟩
  | completed {workerId : String} {event : OutboxEvent}
      {completion : Completion} {began : Timestamp}
      {plan : List (Option SqlError)} {old : OutboxRow} {db : OutboxDb} :
      operation = .complete workerId event completion began plan →
      ledger.MayComplete workerId event began → event.id = id →
      ledger.db.leasedTo id workerId = some old →
      ledger.db.deliveries.lookup (id, event.attempts) = none →
      0 < event.attempts →
      recordsOf id db =
        recordsOf id ledger.db ++ [completion.record workerId event] →
      RowMoves ledger operation id (completion.settle event began old)
        ⟨ledger.clock, db, .completed workerId event completion :: ledger.log⟩

theorem Moves.row {ledger reached : Ledger} {operation : Operation}
    (moves : ledger.Moves operation reached) {id : Uuid} {row : OutboxRow}
    (found : reached.db.events.lookup id = some row) :
    ledger.RowMoves operation id row reached := by
  cases moves with
  | waits _ later => exact .waits later found
  | @enqueues event began plan absent =>
      by_cases same : event.id = id
      · subst same
        have written : (ledger.db.events.put (newRow event began)).lookup
            event.id = some (newRow event began) :=
          Table.lookup_put_self (newRow event began) ledger.db.events
        rw [written] at found
        cases found
        exact .enqueued absent rfl rfl
      · have different : (newRow event began).id ≠ id := same
        have kept : ledger.db.events.lookup id = some row :=
          (Table.lookup_put_of_ne different).symm.trans found
        exact .passed kept same rfl
  | claims workerId batchSize lease locked plan =>
      rcases lookup_claimed found with ⟨old, isPicked, rfl, rfl⟩ | ⟨kept, other⟩
      · have before := Table.lookup_of_mem (mem_of_mem_picked isPicked).1
        exact .claimed rfl before isPicked (recordsOf_claimed ..)
      · refine .passed kept ?_ (recordsOf_claimed ..)
        intro returned
        obtain ⟨old, isPicked, same⟩ := returns_claimCall.mp returned
        exact other old isPicked same
  | @completes workerId event completion began plan old may leased absent
      positive =>
      have isRow : (completion.settle event began old).id = event.id := by
        rw [settle_id]
        exact Table.key_of_lookup (leasedTo_eq_some leased).1
      have fresh : ledger.db.deliveries.lookup
          (completion.record workerId event).key = none :=
        record_key workerId event completion ▸ absent
      have recorded := recordsOf_put
        (ledger.db.events.put (completion.settle event began old)) fresh id
      rw [record_eventId] at recorded
      by_cases same : event.id = id
      · subst same
        have written : (ledger.db.events.put
            (completion.settle event began old)).lookup event.id =
              some (completion.settle event began old) := by
          rw [← isRow, Table.lookup_put_self]
        rw [if_pos rfl] at recorded
        have rowIs := Option.some.inj (written.symm.trans found)
        subst rowIs
        exact .completed rfl may rfl leased absent positive recorded
      · have kept : ledger.db.events.lookup id = some row :=
          (Table.lookup_put_of_ne (fun equal => same (isRow ▸ equal))).symm.trans
            found
        rw [if_neg same, List.append_nil] at recorded
        exact .passed kept same recorded

/-- Rows stay. -/
theorem Moves.isSome_lookup {ledger reached : Ledger} {operation : Operation}
    {id : Uuid} (moves : ledger.Moves operation reached)
    (present : (ledger.db.events.lookup id).isSome) :
    (reached.db.events.lookup id).isSome := by
  cases moves with
  | waits _ _ => exact present
  | @enqueues event began _ _ =>
      have put := Table.lookup_put (newRow event began) id ledger.db.events
      by_cases same : (newRow event began).id = id
      · rw [put, if_pos same]
        rfl
      · rw [put, if_neg same]
        exact present
  | claims _ _ _ _ _ =>
      rw [OutboxDb.claimed, lookup_applyAll_claim, Option.isSome_or]
      simp [present]
  | @completes _ event completion began _ row _ _ _ _ =>
      have put := Table.lookup_put (completion.settle event began row) id
        ledger.db.events
      by_cases same : (completion.settle event began row).id = id
      · rw [OutboxDb.completed, put, if_pos same]
        rfl
      · rw [OutboxDb.completed, put, if_neg same]
        exact present

/-- The attempts of a row never decrease. -/
theorem Moves.attempts_le {ledger reached : Ledger} {operation : Operation}
    (moves : ledger.Moves operation reached) {id : Uuid} {old : OutboxRow}
    (found : ledger.db.events.lookup id = some old) :
    ∃ row, reached.db.events.lookup id = some row ∧
      old.attempts ≤ row.attempts := by
  have present := moves.isSome_lookup (Option.isSome_of_eq_some found)
  obtain ⟨row, after⟩ := Option.isSome_iff_exists.mp present
  refine ⟨row, after, ?_⟩
  cases moves.row after with
  | waits _ before =>
      rw [found] at before
      cases before
      exact le_rfl
  | passed before _ _ =>
      rw [found] at before
      cases before
      exact le_rfl
  | enqueued absent _ _ =>
      rw [found] at absent
      cases absent
  | claimed _ before _ _ =>
      rw [found] at before
      cases before
      exact Int.le_add_one le_rfl
  | completed _ _ _ leased _ _ _ =>
      have before := (leasedTo_eq_some leased).1
      rw [found] at before
      cases before
      rw [settle_attempts]

end Ledger

end NetworkManager.PlatformEvents
