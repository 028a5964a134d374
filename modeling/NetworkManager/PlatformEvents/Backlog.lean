import Mathlib.Data.Finset.Dedup
import Mathlib.Data.Finset.Order
import Mathlib.Order.MinMax
import NetworkManager.PlatformEvents.Ledger

/-!
# Events that wait

An enqueued event keeps its row.  The row waits until it is published or
dead-lettered, and while it waits, nothing keeps it from being claimed but the
time from which it is available and the end of its lease.

A claim counts one more attempt for every row that it picks.  The column is of
type `integer`, so a row that has no attempt left makes the claim fail, for the
other rows as well.
-/

namespace NetworkManager.PlatformEvents

open NetworkManager.Foundation
open NetworkManager.Transaction

/-- The events whose enqueueing was committed, the last one first. -/
def enqueuedIds (log : List Entry) : List Uuid :=
  log.filterMap fun
    | .enqueued eventId => some eventId
    | _ => none

/-- The rows that `backlog` counts. -/
def OutboxDb.waitingRows (db : OutboxDb) : List OutboxRow :=
  db.events.rows.filter fun row => isOpen row.status

/-- The event is neither published nor dead-lettered. -/
def OutboxDb.waits (db : OutboxDb) (eventId : Uuid) : Bool :=
  (db.events.lookup eventId).any fun row =>
    decide (row.status ≠ .published ∧ row.status ≠ .deadLetter)

/-- Every claim that is made later, of a batch that has room for the whole
backlog, returns the event. -/
def OutboxDb.ReturnedAfter (db : OutboxDb) (eventId : Uuid)
    (latest : Timestamp) : Prop :=
  ∀ now, latest < now → ∀ workerId, isBlank workerId = false →
    ∀ batchSize : Int, (db.waitingRows.length : Int) ≤ batchSize →
      batchSize ≤ 250 → ∀ lease,
        ∃ events reached,
          (claim workerId batchSize lease now []).call db =
            (.ok events, reached) ∧
          ∃ event ∈ events, event.id = eventId

def Ledger.NoneLost (ledger : Ledger) : Prop :=
  ∀ eventId ∈ enqueuedIds ledger.log, ∃ row,
    ledger.db.events.lookup eventId = some row ∧
      (row.status = .published ∨ row.status = .deadLetter ∨
        ∃ latest, ledger.db.ReturnedAfter eventId latest)

/-- The answer of `backlog` is the number of enqueued events that wait. -/
def Ledger.BacklogExact (ledger : Ledger) : Prop :=
  backlog.call ledger.db =
    (.ok ((enqueuedIds ledger.log).countP ledger.db.waits), ledger.db)

/-- A row that waits has no attempt left. -/
def OutboxDb.Exhausted (db : OutboxDb) : Prop :=
  ∃ row ∈ db.waitingRows, maxInteger ≤ row.attempts

/-- The rows are those of the enqueued events, in their order. -/
def Ledger.Complete (ledger : Ledger) : Prop :=
  ledger.db.events.rows.map OutboxRow.id = (enqueuedIds ledger.log).reverse

private theorem map_id_applyAll {rows : List OutboxRow} :
    ∀ {db : OutboxDb}, (∀ row ∈ rows, (db.events.lookup row.id).isSome) →
      (outboxSql.applyAll (rows.map .event) db).events.rows.map OutboxRow.id =
        db.events.rows.map OutboxRow.id := by
  induction rows with
  | nil => exact fun _ => rfl
  | cons row rest inductionHypothesis =>
      intro db present
      have here := present row (List.mem_cons_self ..)
      have sameIds := Table.map_key_put here
      have later : ∀ other ∈ rest,
          ((applyWrite (.event row) db).events.lookup other.id).isSome := by
        intro other member
        have put := Table.lookup_put row other.id db.events
        have before := present other (List.mem_cons_of_mem row member)
        by_cases same : row.id = other.id
        · rw [if_pos same] at put
          exact Option.isSome_of_eq_some put
        · rw [if_neg same] at put
          exact put ▸ before
      have rest := inductionHypothesis later
      exact rest.trans sameIds

private theorem Ledger.Complete.step
    {ledger reached : Ledger} {operation : Operation}
    (moves : ledger.Moves operation reached) (complete : ledger.Complete) :
    reached.Complete := by
  cases moves with
  | waits _ _ => exact complete
  | @enqueues event began plan absent =>
      have appended : (ledger.db.events.put (newRow event began)).rows =
          ledger.db.events.rows ++ [newRow event began] :=
        Table.rows_put_of_lookup_none absent
      have logged : enqueuedIds (.enqueued event.id :: ledger.log) =
          event.id :: enqueuedIds ledger.log := rfl
      have before : ledger.db.events.rows.map OutboxRow.id =
          (enqueuedIds ledger.log).reverse := complete
      unfold Complete
      rw [appended, logged, List.map_append, before, List.reverse_cons]
      rfl
  | claims workerId batchSize lease locked plan =>
      have present : ∀ row ∈ (picked (clamp batchSize 1 250).toNat ledger.clock
          locked ledger.db).map (claimRow workerId (clamp lease 1 300)
            ledger.clock),
          (ledger.db.events.lookup row.id).isSome := by
        intro row member
        obtain ⟨old, isPicked, rfl⟩ := List.mem_map.mp member
        have found := Table.lookup_of_mem (mem_of_mem_picked isPicked).1
        exact Option.isSome_of_eq_some found
      have sameIds := map_id_applyAll present
      rw [List.map_map] at sameIds
      exact sameIds.trans complete
  | @completes workerId event completion began plan row may leased absent
      positive =>
      have found := (leasedTo_eq_some leased).1
      have isRow : (completion.settle event began row).id = event.id :=
        (settle_id completion event began row).trans (Table.key_of_lookup found)
      have present : (ledger.db.events.lookup
          (completion.settle event began row).id).isSome := by
        rw [isRow, found]
        rfl
      exact (Table.map_key_put present).trans complete

private theorem run_complete (clock : Timestamp) (operations : List Operation) :
    ((Ledger.initial clock).run operations).Complete := by
  have start : (Ledger.initial clock).Complete := rfl
  exact Ledger.invariant_of_moves Ledger.Complete.step start operations

section Claims

variable {db : OutboxDb}

/-- From when on nothing keeps the row from being claimed. -/
def OutboxRow.readyFrom (row : OutboxRow) : Timestamp :=
  max row.availableAt (row.lease.elim row.availableAt Lease.expiresAt)

private theorem claimable_of_ready {now : Timestamp} {row : OutboxRow}
    (waits : isOpen row.status = true) (ready : row.readyFrom < now) :
    claimable now [] row = true := by
  obtain ⟨available, expired⟩ := max_lt_iff.mp ready
  cases held : row.lease with
  | none => simp [claimable, waits, held, available.le]
  | some lease =>
      rw [held, Option.elim_some] at expired
      simp [claimable, waits, held, available.le, expired]

/-- When all the rows that wait are ready, a large enough claim picks them
all. -/
theorem picked_perm {limit : Nat} {now : Timestamp}
    (ready : ∀ row ∈ db.waitingRows, row.readyFrom < now)
    (room : db.waitingRows.length ≤ limit) :
    (picked limit now [] db).Perm db.waitingRows := by
  have sameRows : db.events.rows.filter (claimable now []) =
      db.waitingRows := by
    apply List.filter_congr
    intro row member
    cases waits : isOpen row.status with
    | false => simp [claimable, waits]
    | true =>
        have isReady := ready row (List.mem_filter.mpr ⟨member, waits⟩)
        exact claimable_of_ready waits isReady
  have sorted := List.perm_insertionSort claimedBefore db.waitingRows
  have short : (db.waitingRows.insertionSort claimedBefore).length ≤ limit := by
    rw [sorted.length_eq]
    exact room
  rw [picked, sameRows, List.take_of_length_le short]
  exact sorted

/-- A claim whose rows all have an attempt left is answered. -/
theorem call_claim {workerId : String} {batchSize : Int} {lease : Nat}
    {now : Timestamp} {locked : List Uuid} (named : isBlank workerId = false)
    (positive : 0 < batchSize)
    (spare : ∀ row ∈ picked (clamp batchSize 1 250).toNat now locked db,
      row.attempts < maxInteger) :
    (claim workerId batchSize lease now locked).call db =
      (.ok (claimedEvents (clamp batchSize 1 250).toNat workerId
          (clamp lease 1 300) now locked db),
        db.claimed (clamp batchSize 1 250).toNat workerId (clamp lease 1 300)
          now locked) := by
  have checked : (!(isBlank workerId || decide (batchSize ≤ 0))) = true := by
    simp [named, positive]
  have answered : outboxSql.exec (.claim (clamp batchSize 1 250).toNat workerId
      (clamp lease 1 300) now locked) db =
        .ok (claimedEvents (clamp batchSize 1 250).toNat workerId
            (clamp lease 1 300) now locked db,
          (picked (clamp batchSize 1 250).toNat now locked db).map fun row =>
            .event (claimRow workerId (clamp lease 1 300) now row)) := by
    have fits : ((picked (clamp batchSize 1 250).toNat now locked db).map
        (claimRow workerId (clamp lease 1 300) now)).any
          (fun row => decide (maxInteger < row.attempts)) = false := by
      rw [List.any_eq_false]
      intro claimed member
      obtain ⟨row, isPicked, rfl⟩ := List.mem_map.mp member
      have counted : (claimRow workerId (clamp lease 1 300) now row).attempts =
          row.attempts + 1 := rfl
      have left := spare row isPicked
      rw [decide_eq_true_eq, counted]
      omega
    simp only [outboxSql, execClaim, fits, claimedEvents, List.map_map]
    rfl
  rw [claim, checked]
  exact Program.call_of_eval (Program.eval_statement_bind_ok answered)

/-- A claim that picks a row without an attempt left fails. -/
theorem call_claim_of_exhausted {workerId : String} {batchSize : Int}
    {lease : Nat} {now : Timestamp} {locked : List Uuid} {row : OutboxRow}
    (isPicked : row ∈ picked (clamp batchSize 1 250).toNat now locked db)
    (exhausted : maxInteger ≤ row.attempts) :
    ∃ failure, ((claim workerId batchSize lease now locked).call db).1 =
      .error failure := by
  cases checked : !(isBlank workerId || decide (batchSize ≤ 0)) with
  | false =>
      rw [claim, checked]
      exact ⟨.invalidClaim, rfl⟩
  | true =>
      have refused : outboxSql.exec (.claim (clamp batchSize 1 250).toNat
          workerId (clamp lease 1 300) now locked) db =
            .error (.other "numeric_value_out_of_range") := by
        have exceeds : ((picked (clamp batchSize 1 250).toNat now locked db).map
            (claimRow workerId (clamp lease 1 300) now)).any
              (fun row => decide (maxInteger < row.attempts)) = true := by
          rw [List.any_eq_true]
          refine ⟨_, List.mem_map_of_mem isPicked, ?_⟩
          have counted :
              (claimRow workerId (clamp lease 1 300) now row).attempts =
                row.attempts + 1 := rfl
          rw [decide_eq_true_eq, counted]
          omega
        simp only [outboxSql, execClaim, exceeds]
        rfl
      rw [claim, checked]
      exact ⟨_, congrArg Prod.fst
        (Program.call_of_eval (Program.eval_statement_bind_error refused))⟩

private theorem exists_all_ready (rows : List OutboxRow) :
    ∃ latest, ∀ row ∈ rows, row.readyFrom ≤ latest := by
  obtain ⟨latest, bound⟩ := (rows.map OutboxRow.readyFrom).toFinset.exists_le
  refine ⟨latest, fun row member => bound row.readyFrom ?_⟩
  rw [List.mem_toFinset]
  exact List.mem_map_of_mem member

/-- An event that waits is returned from some time on. -/
theorem exists_returnedAfter (spare : ¬db.Exhausted) {row : OutboxRow}
    (waits : row ∈ db.waitingRows) :
    ∃ latest, db.ReturnedAfter row.id latest := by
  obtain ⟨latest, bound⟩ := exists_all_ready db.waitingRows
  refine ⟨latest, ?_⟩
  intro now later workerId named batchSize room small lease
  have some : 0 < db.waitingRows.length := List.length_pos_of_mem waits
  have limit : (clamp batchSize 1 250).toNat = batchSize.toNat := by
    unfold clamp
    omega
  have isPicked := picked_perm
    (fun other member => (bound other member).trans_lt later)
    (show db.waitingRows.length ≤ (clamp batchSize 1 250).toNat by omega)
  have left : ∀ other ∈ picked (clamp batchSize 1 250).toNat now [] db,
      other.attempts < maxInteger := by
    intro other member
    by_contra exceeds
    exact spare ⟨other, isPicked.mem_iff.mp member, Int.not_lt.mp exceeds⟩
  refine ⟨_, _, call_claim named (by omega) left, ?_⟩
  have here : row ∈ picked (clamp batchSize 1 250).toNat now [] db :=
    isPicked.mem_iff.mpr waits
  exact ⟨_, List.mem_map_of_mem here, rfl⟩

end Claims

/-! ## Every run -/

private theorem waits_iff {db : OutboxDb} {row : OutboxRow}
    (member : row ∈ db.events.rows) :
    db.waits row.id = isOpen row.status := by
  have found := Table.lookup_of_mem member
  rw [OutboxDb.waits, found]
  cases status : row.status <;> simp [status, isOpen]

private theorem Ledger.Complete.backlogExact {ledger : Ledger}
    (complete : ledger.Complete) : ledger.BacklogExact := by
  have sameCount : (enqueuedIds ledger.log).countP ledger.db.waits =
      ledger.db.waitingRows.length := by
    have before : ledger.db.events.rows.map OutboxRow.id =
        (enqueuedIds ledger.log).reverse := complete
    rw [← List.countP_reverse, ← before, List.countP_map,
      OutboxDb.waitingRows, ← List.countP_eq_length_filter]
    apply List.countP_congr
    intro row member
    have same := waits_iff member
    simp [same]
  rw [BacklogExact, sameCount]
  rfl

private theorem Ledger.Complete.noneLost
    {ledger : Ledger} (complete : ledger.Complete)
    (spare : ¬ledger.db.Exhausted) : ledger.NoneLost := by
  intro eventId member
  have before : ledger.db.events.rows.map OutboxRow.id =
      (enqueuedIds ledger.log).reverse := complete
  rw [← List.mem_reverse, ← before] at member
  obtain ⟨row, isRow, rfl⟩ := List.mem_map.mp member
  refine ⟨row, Table.lookup_of_mem isRow, ?_⟩
  cases status : row.status with
  | published => exact Or.inl rfl
  | deadLetter => exact Or.inr (Or.inl rfl)
  | pending =>
      have waits : row ∈ ledger.db.waitingRows :=
        List.mem_filter.mpr ⟨isRow, by simp [status, isOpen]⟩
      exact Or.inr (Or.inr (exists_returnedAfter spare waits))
  | failed =>
      have waits : row ∈ ledger.db.waitingRows :=
        List.mem_filter.mpr ⟨isRow, by simp [status, isOpen]⟩
      exact Or.inr (Or.inr (exists_returnedAfter spare waits))

/-- In every reachable state the backlog is exact, and no event is lost unless
a row that waits has no attempt left. -/
theorem run_noneLost (clock : Timestamp) (operations : List Operation) :
    let ledger := (Ledger.initial clock).run operations
    ledger.BacklogExact ∧ (ledger.db.Exhausted ∨ ledger.NoneLost) := by
  intro ledger
  have complete := run_complete clock operations
  refine ⟨complete.backlogExact, ?_⟩
  by_cases exhausted : ledger.db.Exhausted
  · exact Or.inl exhausted
  · exact Or.inr (complete.noneLost exhausted)

namespace Crashes

def event : NewOutboxEvent := Sample.event

/-- A worker claims the event and crashes, until the lease has run out. -/
def crash (count : Nat) : List Operation :=
  [.claim "worker" 1 1 [] [], .advanceClock (2000000 * (count + 1) + 1)]

def crashes : Nat → List Operation
  | 0 => [.enqueue event 0 [], .advanceClock 1]
  | count + 1 => crashes count ++ crash count

/-- After so many crashes the event still waits, in the only row. -/
def Crashed (count : Nat) (ledger : Ledger) : Prop :=
  ledger.clock = 2000000 * count + 1 ∧
    ∃ row, ledger.db.events.rows = [row] ∧ row.event = event ∧
      isOpen row.status = true ∧ row.attempts = count ∧
      row.readyFrom < ledger.clock

private theorem picked_eq_singleton
    {db : OutboxDb} {row : OutboxRow} {limit : Nat}
    {now : Timestamp} (only : db.events.rows = [row])
    (waits : isOpen row.status = true) (ready : row.readyFrom < now)
    (positive : 0 < limit) : picked limit now [] db = [row] := by
  have waiting : db.waitingRows = [row] := by
    simp [OutboxDb.waitingRows, only, waits]
  have isPicked : (picked limit now [] db).Perm db.waitingRows := by
    apply picked_perm
    · simpa [waiting] using ready
    · simpa [waiting] using Nat.succ_le_of_lt positive
  rw [waiting] at isPicked
  exact List.perm_singleton.mp isPicked

private theorem step_claim
    {ledger : Ledger} {workerId : String} {batchSize : Int}
    {lease : Nat} {locked : List Uuid} {events : List OutboxEvent}
    {db : OutboxDb}
    (answered : (claim workerId batchSize lease ledger.clock locked).call
      ledger.db = (.ok events, db)) :
    ledger.step (.claim workerId batchSize lease locked []) =
      { ledger with
        db
        log := .claimed ⟨workerId, ledger.clock, clamp lease 1 300, events⟩ ::
          ledger.log } := by
  have ran : (claim workerId batchSize lease ledger.clock locked).callFaulty []
      ledger.db = (.ok events, db) := answered
  rw [Ledger.step, Ledger.commit, ran]

private theorem crashed_step {count : Nat} {ledger : Ledger}
    (crashed : Crashed count ledger) (left : (count : Int) < maxInteger) :
    Crashed (count + 1) (ledger.run (crash count)) := by
  obtain ⟨clock, row, only, isEvent, waits, attempts, ready⟩ := crashed
  have isPicked : picked (clamp 1 1 250).toNat ledger.clock [] ledger.db =
      [row] := picked_eq_singleton only waits ready (by decide)
  have spare : ∀ other ∈ picked (clamp 1 1 250).toNat ledger.clock [] ledger.db,
      other.attempts < maxInteger := by
    intro other member
    have same : other = row := by simpa [isPicked] using member
    rw [same]
    omega
  have named : isBlank "worker" = false := by decide
  have answered : (claim "worker" 1 1 ledger.clock []).call ledger.db = _ :=
    call_claim named Int.one_pos spare
  have written : (ledger.db.claimed (clamp 1 1 250).toNat "worker"
      (clamp 1 1 300) ledger.clock []).events.rows =
        [claimRow "worker" (clamp 1 1 300) ledger.clock row] := by
    have sameId :
        (claimRow "worker" (clamp 1 1 300) ledger.clock row).id = row.id :=
      rfl
    have replaced : (ledger.db.events.put
        (claimRow "worker" (clamp 1 1 300) ledger.clock row)).rows =
          [claimRow "worker" (clamp 1 1 300) ledger.clock row] := by
      simp [Table.put, only, putRow, sameId]
    rw [OutboxDb.claimed, isPicked]
    exact replaced
  have reached := congrArg
    (Ledger.step · (.advanceClock (2000000 * (count + 1) + 1)))
    (step_claim answered)
  have longer : 2000000 * (count : Int) + 1 + 1000000 <
      2000000 * ((count : Int) + 1) + 1 := by omega
  have later : 2000000 * (count : Int) + 1 < 2000000 * ((count : Int) + 1) + 1 := by
    omega
  have clockNow : max ledger.clock (2000000 * ((count : Int) + 1) + 1) =
      2000000 * ((count : Int) + 1) + 1 := by
    rw [clock]
    exact max_eq_right later.le
  have available : row.availableAt < ledger.clock :=
    (le_max_left _ _).trans_lt ready
  have isReady :
      (claimRow "worker" (clamp 1 1 300) ledger.clock row).readyFrom <
        2000000 * ((count : Int) + 1) + 1 := by
    have lease : intervalSeconds (clamp 1 1 300) = 1000000 := by decide
    rw [clock] at available
    simp only [OutboxRow.readyFrom, claimRow, Option.elim_some, lease, clock,
      max_lt_iff]
    exact ⟨available.trans later, longer⟩
  have runs : ledger.run (crash count) = _ := reached
  rw [runs]
  refine ⟨clockNow, _, written, isEvent, rfl, ?_, ?_⟩
  · have counted : (claimRow "worker" (clamp 1 1 300) ledger.clock
        row).attempts = row.attempts + 1 := rfl
    rw [counted, attempts]
    rfl
  · exact isReady.trans_eq clockNow.symm

private theorem crashed (count : Nat) (few : (count : Int) ≤ maxInteger) :
    Crashed count ((Ledger.initial 0).run (crashes count)) := by
  induction count with
  | zero => exact ⟨rfl, newRow event 0, by decide⟩
  | succ count inductionHypothesis =>
      have before := inductionHypothesis (by omega)
      have step := crashed_step before (by omega)
      have runs : (Ledger.initial 0).run (crashes (count + 1)) =
          ((Ledger.initial 0).run (crashes count)).run (crash count) :=
        List.foldl_append
      rw [runs]
      exact step

end Crashes

/-- When the row of an event has no attempt left, no claim returns it. -/
theorem crashes_not_noneLost :
    ¬ ∀ clock operations,
      ((Ledger.initial clock).run operations).NoneLost := by
  intro noneLost
  have few : ((maxInteger.toNat : Nat) : Int) ≤ maxInteger := by
    simp [maxInteger]
  have lost := noneLost 0 (Crashes.crashes maxInteger.toNat)
  have complete := run_complete 0 (Crashes.crashes maxInteger.toNat)
  have crashed := Crashes.crashed maxInteger.toNat few
  generalize (Ledger.initial 0).run (Crashes.crashes maxInteger.toNat) =
    ledger at lost complete crashed
  obtain ⟨_, row, only, _, waits, attempts, ready⟩ := crashed
  have isEnqueued : row.id ∈ enqueuedIds ledger.log := by
    have ids : ledger.db.events.rows.map OutboxRow.id =
        (enqueuedIds ledger.log).reverse := complete
    rw [← List.mem_reverse, ← ids, only]
    exact List.mem_cons_self ..
  obtain ⟨stored, found, ended⟩ := lost row.id isEnqueued
  have isRow : row ∈ ledger.db.events.rows := by simp [only]
  rw [Table.lookup_of_mem isRow, Option.some.injEq] at found
  subst found
  rcases ended with published | deadLetter | ⟨latest, returned⟩
  · rw [published] at waits
    cases waits
  · rw [deadLetter] at waits
    cases waits
  · have later : latest < max latest ledger.clock + 1 :=
      Int.lt_add_one_of_le (le_max_left _ _)
    have isReady : row.readyFrom < max latest ledger.clock + 1 :=
      ready.trans (Int.lt_add_one_of_le (le_max_right _ _))
    have isPicked : picked (clamp 1 1 250).toNat (max latest ledger.clock + 1)
        [] ledger.db = [row] :=
      Crashes.picked_eq_singleton only waits isReady (by decide)
    have here : row ∈ picked (clamp 1 1 250).toNat
        (max latest ledger.clock + 1) [] ledger.db := by
      simp [isPicked]
    have room : (ledger.db.waitingRows.length : Int) ≤ 1 := by
      simp [OutboxDb.waitingRows, only, waits]
    have exhausted : maxInteger ≤ row.attempts := by
      rw [attempts]
      simp [maxInteger]
    obtain ⟨events, reached, answered, _⟩ := returned _ later "worker"
      (by decide) 1 room (by decide) 1
    have refused : ∃ failure, ((claim "worker" 1 1
        (max latest ledger.clock + 1) []).call ledger.db).1 = .error failure :=
      call_claim_of_exhausted here exhausted
    rw [answered] at refused
    obtain ⟨failure, wrong⟩ := refused
    cases wrong

end NetworkManager.PlatformEvents
