import NetworkManager.PlatformEvents.Ledger

/-!
# Leases between workers

A claim passes over a row whose lease has not run out.  An event therefore goes
from one worker to another only when the lease has run out, or when the first
worker has recorded a failure and with it given up the lease.

The time from which a failed event is available counts from the beginning of
the transaction that records the failure, and the record finds the row by the
worker.  A record that is late may thus give up the lease of a later claim by
the same worker, and make the event available at once.
-/

namespace NetworkManager.PlatformEvents

open NetworkManager.Foundation
open NetworkManager.Transaction

/-- The last claim that returned an event, and what came after it. -/
def lastClaim (eventId : Uuid) :
    List Entry → Option (ClaimCall × List Entry)
  | [] => none
  | entry :: log =>
      match entry.claimOf eventId with
      | some call => some (call, [])
      | none => (lastClaim eventId log).map fun last =>
          (last.1, entry :: last.2)

def ClaimCall.expiresAt (call : ClaimCall) : Timestamp :=
  call.instant + intervalSeconds call.leaseSeconds

/-- The worker records a failure of the event. -/
def Entry.Releases (workerId : String) (eventId : Uuid) : Entry → Prop
  | .completed holder event (.failed ..) =>
      holder = workerId ∧ event.id = eventId
  | _ => False

/-- A claim that returns an event after a different worker comes later than the
lease of that worker lasts, or that worker has recorded a failure in between;
and no two claims return an event at the same instant. -/
def LeaseExclusive (log : List Entry) : Prop :=
  ∀ call older, (.claimed call :: older) <:+ log →
    ∀ eventId, call.Returns eventId →
      (∀ earlier since, lastClaim eventId older = some (earlier, since) →
        earlier.workerId ≠ call.workerId →
        earlier.expiresAt < call.instant ∨
          ∃ entry ∈ since, entry.Releases earlier.workerId eventId) ∧
      ∀ earlier ∈ claimsOf eventId older, earlier.instant ≠ call.instant

/-- For a call that is committed: a record of a failure that schedules a retry at
the very instant of a claim of the event makes the event available later than
that. -/
def Ledger.Timely (ledger : Ledger) : Operation → Prop
  | .complete _ event (.failed _ maxAttempts retryAfter) began _ =>
      event.attempts < maxAttempts →
      (∃ call ∈ claimsOf event.id ledger.log, call.instant = ledger.clock) →
      ledger.clock < began + intervalSeconds (clamp retryAfter 1 3600)
  | _ => True

instance (ledger : Ledger) :
    (operation : Operation) → Decidable (ledger.Timely operation)
  | .complete _ _ (.failed ..) _ _ => inferInstanceAs (Decidable (_ → _))
  | .complete _ _ .published _ _ => inferInstanceAs (Decidable True)
  | .advanceClock _ => inferInstanceAs (Decidable True)
  | .enqueue .. => inferInstanceAs (Decidable True)
  | .claim .. => inferInstanceAs (Decidable True)

section Rows

variable {ledger reached : Ledger} {operation : Operation} {id : Uuid}

private theorem lastClaim_cons_of_none {entry : Entry}
    (noClaim : entry.claimOf id = none) (log : List Entry) :
    lastClaim id (entry :: log) =
      (lastClaim id log).map fun last => (last.1, entry :: last.2) := by
  rw [lastClaim, noClaim]

private theorem lastClaim_claimed
    {call : ClaimCall} (returned : call.Returns id)
    (log : List Entry) :
    lastClaim id (.claimed call :: log) = some (call, []) := by
  have claimed : (Entry.claimed call).claimOf id = some call :=
    if_pos returned
  rw [lastClaim, claimed]

private theorem mem_claimsOf_of_lastClaim {call : ClaimCall} :
    ∀ {log since : List Entry}, lastClaim id log = some (call, since) →
      call ∈ claimsOf id log
  | entry :: log, since, last => by
      rw [lastClaim] at last
      cases claimed : entry.claimOf id with
      | some other =>
          rw [claimed] at last
          cases last
          rw [claimsOf, List.filterMap_cons_some claimed]
          exact List.mem_cons_self ..
      | none =>
          rw [claimed] at last
          obtain ⟨⟨other, rest⟩, lastOfLog, same⟩ :=
            Option.map_eq_some_iff.mp last
          cases same
          rw [claimsOf, List.filterMap_cons_none claimed]
          exact mem_claimsOf_of_lastClaim lastOfLog

/-- An event that was claimed has a row, and no claim comes after the clock. -/
def Ledger.Dated (ledger : Ledger) : Prop :=
  ∀ id, ∀ call ∈ claimsOf id ledger.log,
    (ledger.db.events.lookup id).isSome ∧ call.instant ≤ ledger.clock

private theorem Ledger.Dated.step (dated : ledger.Dated)
    (moves : ledger.Moves operation reached) : reached.Dated := by
  intro other call member
  have stays {claimed : ClaimCall} (old : claimed ∈ claimsOf other ledger.log)
      {clock : Timestamp} (later : ledger.clock ≤ clock) :
      (reached.db.events.lookup other).isSome ∧ claimed.instant ≤ clock :=
    ⟨moves.isSome_lookup (dated other claimed old).1,
      (dated other claimed old).2.trans later⟩
  cases moves with
  | waits _ later => exact stays member later
  | enqueues _ _ _ => exact stays member le_rfl
  | completes _ _ _ _ _ _ => exact stays member le_rfl
  | claims workerId batchSize lease locked plan =>
      obtain ⟨logged, returned⟩ := mem_claimsOf.mp member
      rcases List.mem_cons.mp logged with new | old
      · cases new
        obtain ⟨row, isPicked, rfl⟩ := Ledger.returns_claimCall.mp returned
        have found := Table.lookup_of_mem (mem_of_mem_picked isPicked).1
        have before : (ledger.db.events.lookup row.id).isSome :=
          Option.isSome_of_eq_some found
        exact ⟨Ledger.Moves.isSome_lookup
          (.claims workerId batchSize lease locked plan) before, le_rfl⟩
      · exact stays (mem_claimsOf.mpr ⟨old, returned⟩) le_rfl

/-- A lease belongs to the last claim of the event.  A row that waits without
a lease has been given up by the worker of that claim. -/
structure Ledger.Held (ledger : Ledger) (id : Uuid) (row : OutboxRow) :
    Prop where
  leased : ∀ lease ∈ row.lease, ∃ call since,
    lastClaim id ledger.log = some (call, since) ∧
      lease = ⟨call.workerId, call.expiresAt⟩
  released : isOpen row.status → row.lease = none → ∀ call since,
    lastClaim id ledger.log = some (call, since) →
      ∃ entry ∈ since, entry.Releases call.workerId id

/-- From when on a row that waits may be claimed. -/
def OutboxRow.claimableFrom (row : OutboxRow) : Timestamp :=
  (row.lease.map Lease.expiresAt).getD row.availableAt

/-- A row that waits becomes available after every claim of it, if not after
this instant. -/
def Ledger.Ahead (ledger : Ledger) (id : Uuid) (row : OutboxRow) : Prop :=
  isOpen row.status → ∀ call ∈ claimsOf id ledger.log,
    call.instant = ledger.clock → call.instant < row.claimableFrom

/-- A claim picks no row before its lease runs out and it is available. -/
theorem claimableFrom_le_of_mem_picked {limit : Nat} {now : Timestamp}
    {locked : List Uuid} {db : OutboxDb} {row : OutboxRow}
    (isPicked : row ∈ picked limit now locked db) :
    isOpen row.status = true ∧ row.claimableFrom ≤ now ∧
      ∀ lease ∈ row.lease, lease.expiresAt < now := by
  have may := (mem_of_mem_picked isPicked).2
  simp only [claimable, Bool.and_eq_true, decide_eq_true_eq] at may
  obtain ⟨⟨⟨waits, available⟩, expired⟩, _⟩ := may
  refine ⟨waits, ?_, ?_⟩
  · cases held : row.lease with
    | none => simpa [OutboxRow.claimableFrom, held] using available
    | some lease =>
        have passed : lease.expiresAt < now := by simpa [held] using expired
        simpa [OutboxRow.claimableFrom, held] using passed.le
  · intro lease held
    have isHeld : row.lease = some lease := held
    simpa [isHeld] using expired

private theorem lt_expiresAt {instant leaseSeconds : Int}
    (positive : 1 ≤ leaseSeconds) :
    instant < instant + intervalSeconds leaseSeconds := by
  unfold intervalSeconds
  omega

/-- An entry that claims nothing leaves the holder in the log. -/
theorem Ledger.Held.cons_of_none {row : OutboxRow} {entry : Entry}
    {clock : Timestamp} {db : OutboxDb} (held : ledger.Held id row)
    (noClaim : entry.claimOf id = none) :
    Ledger.Held ⟨clock, db, entry :: ledger.log⟩ id row where
  leased lease isHeld := by
    obtain ⟨call, since, last, same⟩ := held.leased lease isHeld
    refine ⟨call, entry :: since, ?_, same⟩
    rw [lastClaim_cons_of_none noClaim, last]
    rfl
  released waits noLease call since last := by
    rw [lastClaim_cons_of_none noClaim] at last
    obtain ⟨⟨holder, rest⟩, lastOfLog, same⟩ := Option.map_eq_some_iff.mp last
    cases same
    obtain ⟨released, member, releases⟩ :=
      held.released waits noLease holder rest lastOfLog
    exact ⟨released, List.mem_cons_of_mem entry member, releases⟩

private theorem Ledger.RowMoves.held {row : OutboxRow}
    (moves : ledger.RowMoves operation id row reached) (dated : ledger.Dated)
    (held : ∀ old, ledger.db.events.lookup id = some old →
      ledger.Held id old) :
    reached.Held id row := by
  cases moves with
  | waits _ found => exact ⟨(held row found).leased, (held row found).released⟩
  | passed found other _ =>
      exact (held row found).cons_of_none (claimOf_of_not_concerns other)
  | enqueued absent _ _ =>
      have noClaims : claimsOf id ledger.log = [] := by
        rw [List.eq_nil_iff_forall_not_mem]
        intro call member
        have present := (dated id call member).1
        rw [absent] at present
        cases present
      constructor
      · intro lease isHeld
        cases isHeld
      · intro _ _ call since last
        have member := mem_claimsOf_of_lastClaim last
        rw [claimsOf_cons_of_none rfl, noClaims] at member
        cases member
  | @claimed workerId batchSize lease locked plan old db _ found isPicked _ =>
      have returned : (ledger.claimCall (clamp batchSize 1 250).toNat workerId
          (clamp lease 1 300) locked).Returns id :=
        returns_claimCall.mpr ⟨old, isPicked, Table.key_of_lookup found⟩
      constructor
      · intro lease isHeld
        cases isHeld
        exact ⟨_, [], lastClaim_claimed returned _, rfl⟩
      · intro _ noLease
        cases noLease
  | @completed workerId event completion began plan old db _ _ isEvent leased
      _ _ _ =>
      obtain ⟨found, lease, isHeld, owner⟩ := leasedTo_eq_some leased
      obtain ⟨call, since, last, rfl⟩ := (held old found).leased lease isHeld
      constructor
      · intro other isHeld
        rw [settle_lease] at isHeld
        cases isHeld
      · intro waits _ holder rest lastOfLog
        have noClaim : (Entry.completed workerId event completion).claimOf id =
            none := rfl
        rw [lastClaim_cons_of_none noClaim, last] at lastOfLog
        cases lastOfLog
        refine ⟨_, List.mem_cons_self .., ?_⟩
        cases completion with
        | published => cases waits
        | failed errorCode maxAttempts retryAfter => exact ⟨owner.symm, isEvent⟩

private theorem Ledger.Ahead.of_sameClaims {row : OutboxRow} {db : OutboxDb}
    {clock : Timestamp} {log : List Entry} (ahead : ledger.Ahead id row)
    (dated : ledger.Dated) (later : ledger.clock ≤ clock)
    (sameClaims : claimsOf id log = claimsOf id ledger.log) :
    Ledger.Ahead ⟨clock, db, log⟩ id row := by
  intro waits call member now
  have member : call ∈ claimsOf id log := member
  have now : call.instant = clock := now
  rw [sameClaims] at member
  have past := (dated id call member).2
  have alreadyNow : call.instant = ledger.clock :=
    le_antisymm past (later.trans_eq now.symm)
  exact ahead waits call member alreadyNow

private theorem Ledger.RowMoves.ahead {row : OutboxRow}
    (moves : ledger.RowMoves operation id row reached)
    (timely : ledger.Timely operation) (dated : ledger.Dated)
    (ahead : ∀ old, ledger.db.events.lookup id = some old →
      ledger.Ahead id old) :
    reached.Ahead id row := by
  cases moves with
  | waits later found => exact (ahead row found).of_sameClaims dated later rfl
  | passed found other _ =>
      exact (ahead row found).of_sameClaims dated le_rfl
        (claimsOf_cons_of_not_concerns other _)
  | enqueued absent _ _ =>
      intro _ call member
      have old : call ∈ claimsOf id ledger.log := member
      have present := (dated id call old).1
      rw [absent] at present
      cases present
  | claimed _ _ _ _ =>
      intro _ call _ now
      have now : call.instant = ledger.clock := now
      rw [now]
      exact lt_expiresAt (le_max_left _ _)
  | @completed workerId event completion began plan old db isComplete _ isEvent
      leased _ _ _ =>
      subst isComplete isEvent
      intro waits call member now
      have member : call ∈ claimsOf event.id ledger.log := member
      have now : call.instant = ledger.clock := now
      cases completion with
      | published => cases waits
      | failed errorCode maxAttempts retryAfter =>
          by_cases exhausted : maxAttempts ≤ event.attempts
          · simp [Completion.settle, exhausted, failRow, isOpen] at waits
          · have inTime := timely (Int.not_le.mp exhausted) ⟨call, member, now⟩
            have available : (Completion.settle
                (.failed errorCode maxAttempts retryAfter) event began
                  old).claimableFrom =
                began + intervalSeconds (clamp retryAfter 1 3600) := by
              simp [Completion.settle, exhausted, failRow,
                OutboxRow.claimableFrom]
            rw [available, now]
            exact inTime

end Rows

/-! ## Every run -/

/-- What the log tells about every row, and the law. -/
structure Ledger.Orderly (ledger : Ledger) : Prop where
  dated : ledger.Dated
  held : ∀ id row, ledger.db.events.lookup id = some row → ledger.Held id row

private theorem Ledger.orderly_initial (clock : Timestamp) :
    (Ledger.initial clock).Orderly where
  dated := by
    intro id call member
    cases member
  held := by
    intro id row found
    cases found

private theorem Ledger.Orderly.step
    {ledger reached : Ledger} {operation : Operation}
    (orderly : ledger.Orderly) (moves : ledger.Moves operation reached) :
    reached.Orderly where
  dated := orderly.dated.step moves
  held _ _ found := (moves.row found).held orderly.dated (orderly.held _)

/-- A claim that is made now comes after the lease of the last one, or after
its worker has recorded a failure. -/
theorem Ledger.Orderly.handover {ledger : Ledger} (orderly : ledger.Orderly)
    {limit : Nat} {locked : List Uuid} {row : OutboxRow} {earlier : ClaimCall}
    {since : List Entry} (isPicked : row ∈ picked limit ledger.clock locked
      ledger.db)
    (last : lastClaim row.id ledger.log = some (earlier, since)) :
    earlier.expiresAt < ledger.clock ∨
      ∃ entry ∈ since, entry.Releases earlier.workerId row.id := by
  have found := Table.lookup_of_mem (mem_of_mem_picked isPicked).1
  have held := orderly.held row.id row found
  obtain ⟨waits, _, expired⟩ := claimableFrom_le_of_mem_picked isPicked
  cases isHeld : row.lease with
  | none => exact Or.inr (held.released waits isHeld earlier since last)
  | some lease =>
      obtain ⟨call, rest, lastIs, rfl⟩ := held.leased lease isHeld
      rw [last] at lastIs
      cases lastIs
      exact Or.inl (expired _ isHeld)

/-- Claims that were exclusive stay so under an entry that is no claim, or a
claim that is exclusive itself. -/
theorem LeaseExclusive.cons {entry : Entry} {log : List Entry}
    (exclusive : LeaseExclusive log)
    (newest : ∀ call, entry = .claimed call → ∀ eventId,
      call.Returns eventId →
        (∀ earlier since, lastClaim eventId log = some (earlier, since) →
          earlier.workerId ≠ call.workerId →
          earlier.expiresAt < call.instant ∨
            ∃ entry ∈ since, entry.Releases earlier.workerId eventId) ∧
        ∀ earlier ∈ claimsOf eventId log, earlier.instant ≠ call.instant) :
    LeaseExclusive (entry :: log) := by
  intro call older isSuffix eventId returned
  rcases List.suffix_cons_iff.mp isSuffix with same | before
  · obtain ⟨isNewest, rfl⟩ := List.cons.inj same
    exact newest call isNewest.symm eventId returned
  · exact exclusive call older before eventId returned

/-- With the rows available after their claims, the law is kept. -/
structure Ledger.Lawful (ledger : Ledger) : Prop where
  orderly : ledger.Orderly
  ahead : ∀ id row, ledger.db.events.lookup id = some row →
    ledger.Ahead id row
  exclusive : LeaseExclusive ledger.log

private theorem Ledger.Lawful.step
    {ledger reached : Ledger} {operation : Operation}
    (moves : ledger.Moves operation reached) (timely : ledger.Timely operation)
    (lawful : ledger.Lawful) : reached.Lawful where
  orderly := lawful.orderly.step moves
  ahead _ _ found :=
    (moves.row found).ahead timely lawful.orderly.dated (lawful.ahead _)
  exclusive := by
    cases moves with
    | waits _ _ => exact lawful.exclusive
    | enqueues _ _ _ =>
        apply lawful.exclusive.cons
        intro call isClaim
        cases isClaim
    | completes _ _ _ _ _ _ =>
        apply lawful.exclusive.cons
        intro call isClaim
        cases isClaim
    | claims workerId batchSize lease locked plan =>
        apply lawful.exclusive.cons
        intro call isClaim eventId returned
        cases isClaim
        obtain ⟨row, isPicked, rfl⟩ := returns_claimCall.mp returned
        have found := Table.lookup_of_mem (mem_of_mem_picked isPicked).1
        obtain ⟨waits, available, _⟩ := claimableFrom_le_of_mem_picked isPicked
        constructor
        · intro earlier since last _
          exact lawful.orderly.handover isPicked last
        · intro earlier member now
          have notYet := lawful.ahead row.id row found waits earlier member now
          have isNow : earlier.instant = ledger.clock := now
          rw [isNow] at notYet
          exact absurd available (not_le_of_gt notYet)

/-- In every run whose committed retries are recorded in time, leases are
exclusive. -/
theorem run_leaseExclusive (clock : Timestamp) (operations : List Operation)
    (timely : ∀ taken ∈ (Ledger.initial clock).steps operations,
      taken.1.Commits taken.2 → taken.1.Timely taken.2) :
    LeaseExclusive ((Ledger.initial clock).run operations).log := by
  have start : (Ledger.initial clock).Lawful := by
    refine ⟨Ledger.orderly_initial clock, ?_, ?_⟩
    · intro id row found
      cases found
    · intro call older isSuffix
      cases List.suffix_nil.mp isSuffix
  have atEnd := Ledger.invariant_of_commits Ledger.Timely
    (fun _ _ => trivial) Ledger.Lawful.step timely start
  exact atEnd.exclusive

namespace Tenancy

def event : NewOutboxEvent := Sample.event

/-- Two workers in turn: the first records a failure, and the second claims the
event when it is available again. -/
def handedOver : List Operation :=
  [.enqueue event 0 [],
    .claim "first" 1 30 [] [],
    .complete "first" ⟨event, 1⟩ (.failed "unreachable" 5 1) 0 [],
    .advanceClock 1000000,
    .claim "second" 1 30 [] []]

/-- The first worker begins to record the failure of its first attempt at 2
seconds.  At 10 seconds it claims the event once more, and the record goes
through. -/
def lateRecord : List Operation :=
  [.enqueue event 0 [],
    .claim "first" 1 1 [] [],
    .advanceClock 10000000,
    .claim "first" 1 1 [] [],
    .complete "first" ⟨event, 1⟩ (.failed "unreachable" 5 1) 2000000 [],
    .claim "second" 1 30 [] []]

/-- What the last claim of the second worker returns. -/
def lastCall : ClaimCall := ⟨"second", 10000000, 30, [⟨event, 3⟩]⟩

end Tenancy

theorem handedOver_leaseExclusive :
    LeaseExclusive ((Ledger.initial 0).run Tenancy.handedOver).log :=
  run_leaseExclusive 0 Tenancy.handedOver (by decide)

/-- Both workers claim the event at 10 seconds. -/
theorem lateRecord_not_leaseExclusive :
    ¬ ∀ clock operations,
      LeaseExclusive ((Ledger.initial clock).run operations).log := by
  intro exclusive
  have isNewest : (.claimed Tenancy.lastCall ::
      ((Ledger.initial 0).run Tenancy.lateRecord).log.tail) <:+
        ((Ledger.initial 0).run Tenancy.lateRecord).log := by
    decide
  have apart := (exclusive 0 Tenancy.lateRecord Tenancy.lastCall _ isNewest
    Tenancy.event.id (by decide)).2
  have atOnce : (⟨"first", 10000000, 1, [⟨Tenancy.event, 2⟩]⟩ : ClaimCall) ∈
      claimsOf Tenancy.event.id
        ((Ledger.initial 0).run Tenancy.lateRecord).log.tail := by
    decide
  exact apart _ atOnce rfl

end NetworkManager.PlatformEvents
