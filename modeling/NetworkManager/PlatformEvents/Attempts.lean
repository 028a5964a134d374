import NetworkManager.PlatformEvents.Deliveries

/-!
# How often an event is published

A claim counts an attempt, and the limit on attempts is looked at when a
failure is recorded.  Nothing looks at it when the worker of the last attempt
never comes back: its lease runs out, and the event is claimed again.  A
failure that is recorded late may also put back an event that its worker holds
under a later attempt.

When neither happens, an event is published at most as often as the limit says,
and one that is never delivered ends as a dead letter.
-/

namespace NetworkManager.PlatformEvents

open NetworkManager.Foundation
open NetworkManager.Transaction

/-- For a call that is committed: a claim picks up no row whose last attempt has
outlived its lease, and the record of a failure that schedules a retry puts back
no row of its worker that is in a later attempt, the last one. -/
def Ledger.WithinLimit (limit : Int) (ledger : Ledger) : Operation → Prop
  | .claim _ batchSize _ locked _ =>
      ∀ row ∈ picked (clamp batchSize 1 250).toNat ledger.clock locked
        ledger.db, row.lease.isSome → row.attempts < limit
  | .complete workerId event (.failed _ maxAttempts _) _ _ =>
      event.attempts < maxAttempts →
      ∀ row ∈ ledger.db.leasedTo event.id workerId,
        event.attempts < row.attempts → row.attempts < limit
  | _ => True

instance (limit : Int) (ledger : Ledger) (call : Operation) :
    Decidable (ledger.WithinLimit limit call) := by
  unfold Ledger.WithinLimit
  split <;> infer_instance

namespace Dispatching

/-- The number of times that the event was handed to the publisher. -/
def publications (system : Dispatching) (id : Uuid) : Nat :=
  system.deliveries.countP fun delivery =>
    decide (delivery.event.id = id) && delivery.phase.started

/-- No event is published or claimed more often than the limit says, and one
that no publisher has delivered ends as a dead letter. -/
structure Bounded (limit : Int) (system : Dispatching) : Prop where
  publications : ∀ id, (system.publications id : Int) ≤ limit
  attempts : ∀ row ∈ system.ledger.db.events.rows, row.attempts ≤ limit
  deadLettered : ∀ row ∈ system.ledger.db.events.rows,
    (∀ delivery ∈ system.deliveries, delivery.event.id = row.id →
      delivery.phase.result? ≠ some .ok) →
    limit ≤ row.attempts → row.lease = none → row.status = .deadLetter

/-- Every dispatcher has the same limit. -/
def UsesLimit (limit : Int) : Action → Prop
  | .create _ maxAttempts _ => maxAttempts = limit
  | _ => True

instance (limit : Int) (action : Action) :
    Decidable (UsesLimit limit action) := by
  unfold UsesLimit
  split <;> infer_instance

/-- The call of an action is within the limit, if it is committed. -/
def WithinLimit (limit : Int) (system : Dispatching) (action : Action) :
    Prop :=
  ∀ call ∈ system.operation action, system.ledger.Commits call →
    system.ledger.WithinLimit limit call

instance (limit : Int) (system : Dispatching) (action : Action) :
    Decidable (system.WithinLimit limit action) := by
  unfold WithinLimit
  infer_instance

end Dispatching

section Rows

variable {ledger reached : Ledger} {operation : Operation} {id : Uuid}
  {limit : Int}

/-- The claims of a row are its attempts. -/
def Ledger.Numbered (ledger : Ledger) : Prop :=
  ∀ id row, ledger.db.events.lookup id = some row →
    ((claimsOf id ledger.log).length : Int) = row.attempts

/-- A row that waits without a lease has an attempt left. -/
def OutboxRow.Under (limit : Int) (row : OutboxRow) : Prop :=
  row.attempts ≤ limit ∧
    (isOpen row.status = true → row.lease = none → row.attempts < limit)

/-- Every failure is recorded with the limit. -/
def Operation.Limited (limit : Int) : Operation → Prop
  | .complete _ _ (.failed _ maxAttempts _) _ _ => maxAttempts = limit
  | _ => True

private theorem Ledger.RowMoves.under {row : OutboxRow}
    (moves : ledger.RowMoves operation id row reached) (positive : 0 < limit)
    (limited : operation.Limited limit)
    (within : ledger.WithinLimit limit operation) (traced : ledger.Traced)
    (under : ∀ old, ledger.db.events.lookup id = some old → old.Under limit) :
    row.Under limit := by
  cases moves with
  | waits _ found => exact under row found
  | passed found _ _ => exact under row found
  | enqueued _ _ _ => exact ⟨positive.le, fun _ _ => positive⟩
  | @claimed workerId batchSize lease locked plan old db isClaim found isPicked
      _ =>
      subst isClaim
      have left : old.attempts < limit := by
        cases held : old.lease with
        | none =>
            have may := (mem_of_mem_picked isPicked).2
            simp only [claimable, Bool.and_eq_true] at may
            exact (under old found).2 may.1.1.1 held
        | some lease =>
            exact within old isPicked (Option.isSome_of_eq_some held)
      refine ⟨?_, fun _ noLease => by cases noLease⟩
      have counted : (claimRow workerId (clamp lease 1 300) ledger.clock
          old).attempts = old.attempts + 1 := rfl
      omega
  | @completed workerId event completion began plan old db isComplete may
      isEvent leased _ _ _ =>
      subst isComplete isEvent
      have found := (leasedTo_eq_some leased).1
      have atMost := traced.attempts_le may found
      obtain ⟨bound, _⟩ := under old found
      refine ⟨(settle_attempts completion event began old).trans_le bound, ?_⟩
      intro waits _
      rw [settle_attempts]
      cases completion with
      | published => cases waits
      | failed errorCode maxAttempts retryAfter =>
          by_cases exhausted : maxAttempts ≤ event.attempts
          · simp [Completion.settle, exhausted, failRow, isOpen] at waits
          · have sameLimit : maxAttempts = limit := limited
            have early : event.attempts < maxAttempts :=
              Int.not_le.mp exhausted
            by_cases stale : event.attempts < old.attempts
            · exact within early old leased stale
            · omega

private theorem claimsOf_eq_nil (traced : ledger.Traced)
    (absent : ledger.db.events.lookup id = none) :
    claimsOf id ledger.log = [] := by
  rw [List.eq_nil_iff_forall_not_mem]
  intro call member
  obtain ⟨logged, event, returned, isEvent⟩ := mem_claimsOf.mp member
  obtain ⟨row, found, _⟩ := traced.handed call logged event returned
  rw [isEvent, absent] at found
  cases found

private theorem Ledger.RowMoves.numbered {row : OutboxRow}
    (moves : ledger.RowMoves operation id row reached)
    (traced : ledger.Traced) (numbered : ledger.Numbered) :
    ((claimsOf id reached.log).length : Int) = row.attempts := by
  cases moves with
  | waits _ found => exact numbered id row found
  | passed found other _ =>
      have before := numbered id row found
      rw [← before, claimsOf_cons_of_not_concerns other]
  | enqueued absent _ _ =>
      have noClaims := claimsOf_eq_nil traced absent
      rw [claimsOf_cons_of_none rfl, noClaims]
      rfl
  | @claimed workerId batchSize lease locked plan old db _ found isPicked _ =>
      have before := numbered id old found
      have returned : (ledger.claimCall (clamp batchSize 1 250).toNat workerId
          (clamp lease 1 300) locked).Returns id :=
        returns_claimCall.mpr ⟨old, isPicked, Table.key_of_lookup found⟩
      have counted : (claimRow workerId (clamp lease 1 300) ledger.clock
          old).attempts = old.attempts + 1 := rfl
      rw [claimsOf_claimed returned, List.length_cons, counted, ← before]
      omega
  | @completed workerId event completion began plan old db _ _ _ leased _ _
      _ =>
      have before := numbered id old (leasedTo_eq_some leased).1
      rw [claimsOf_cons_of_none rfl, settle_attempts]
      exact before

end Rows

namespace Dispatching

variable {system : Dispatching} {limit : Int}

private theorem limited_completion
    {delivery : Delivery} {result : PublishResult}
    {workerId : String} {event : OutboxEvent} {began : Timestamp}
    {plan : List (Option SqlError)} (limited : delivery.maxAttempts = limit) :
    (Operation.complete workerId event (delivery.completion result) began
      plan).Limited limit := by
  cases result with
  | ok => trivial
  | error code => exact limited

/-- Dispatchers and deliveries keep the limit, and the rows stay under it. -/
structure Limited (limit : Int) (system : Dispatching) : Prop where
  dispatchers : ∀ dispatcher ∈ system.dispatchers,
    dispatcher.maxAttempts = limit
  deliveries : ∀ delivery ∈ system.deliveries, delivery.maxAttempts = limit
  kept : system.Kept
  counted : system.Counted
  numbered : system.ledger.Numbered
  under : ∀ id row, system.ledger.db.events.lookup id = some row →
    row.Under limit

private theorem Limited.operation
    (limited : system.Limited limit) {action : Action}
    {call : Operation} (made : system.operation action = some call) :
    call.Limited limit := by
  cases action with
  | advanceClock instant => cases made; trivial
  | enqueue event began plan => cases made; trivial
  | create _ _ _ => cases made
  | dispatchOnce index batchSize locked plan =>
      obtain ⟨dispatcher, _, rfl⟩ := Option.map_eq_some_iff.mp made
      trivial
  | spawn _ => cases made
  | signal _ _ => cases made
  | mark index plan =>
      obtain ⟨delivery, found, marks⟩ := Option.bind_eq_some_iff.mp made
      split at marks
      · cases marks
        exact limited_completion
          (limited.deliveries delivery (List.mem_of_getElem? found))
      · cases marks

private theorem Limited.step (positive : 0 < limit) {action : Action}
    (allowed : UsesLimit limit action ∧ system.WithinLimit limit action)
    (limited : system.Limited limit) :
    (system.step action).Limited limit := by
  obtain ⟨uses, within⟩ := allowed
  constructor
  · intro dispatcher member
    rcases List.mem_append.mp member with old | new
    · exact limited.dispatchers dispatcher old
    · cases action with
      | create workerId maxAttempts concurrency =>
          have isNew := Option.mem_toList.mp new
          rw [Dispatcher.new] at isNew
          split_ifs at isNew
          cases isNew
          exact uses
      | _ => cases new
  · intro delivery member
    rcases mem_deliveries_step member with
      ⟨index, batchSize, locked, plan, rfl, taken⟩ | ⟨index, old, found, rfl⟩
    · rcases system.dispatchOnce_cases index batchSize locked plan with
        ⟨nothing, _⟩ | ⟨dispatcher, _, isDispatcher, same, _⟩
      · rw [nothing] at taken
        cases taken
      · rw [same] at taken
        obtain ⟨event, _, rfl⟩ := List.mem_map.mp taken
        exact limited.dispatchers dispatcher
          (List.mem_of_getElem? isDispatcher)
    · obtain ⟨phase, moved⟩ := system.advance_eq index old action
      rw [moved]
      exact limited.deliveries old (List.mem_of_getElem? found)
  · exact limited.kept.step action
  · exact limited.counted.step action
  · rcases system.ledger_step action with same | ⟨call, _, moves⟩
    · rw [same]
      exact limited.numbered
    · intro id row found
      exact (moves.row found).numbered limited.kept.settled.traced
        limited.numbered
  · intro id row found
    rcases system.ledger_step_commits action with
      ⟨instant, waits⟩ | ⟨call, made, commits, moves⟩
    · exact (waits.row found).under positive trivial trivial
        limited.kept.settled.traced (limited.under id)
    · exact (moves.row found).under positive (limited.operation made)
        (within call made commits) limited.kept.settled.traced
        (limited.under id)

private theorem limited_initial (clock : Timestamp) (limit : Int) :
    (initial clock).Limited limit where
  dispatchers := by
    intro dispatcher member
    cases member
  deliveries := by
    intro delivery member
    cases member
  kept := kept_initial clock
  counted := fun _ => rfl
  numbered := by
    intro id row found
    cases found
  under := by
    intro id row found
    cases found

/-- An event is handed to the publisher at most once for each claim. -/
theorem publications_le (counted : system.Counted) (id : Uuid) :
    system.publications id ≤ (claimsOf id system.ledger.log).length := by
  rw [← counted id, takenIds, List.count_eq_countP, List.countP_map]
  apply List.countP_mono_left
  intro delivery _ both
  simp only [Bool.and_eq_true, decide_eq_true_eq] at both
  simp [both.1]

private theorem Limited.bounded (positive : 0 < limit)
    (limited : system.Limited limit) : system.Bounded limit where
  publications := by
    intro id
    have atMost := publications_le limited.counted id
    cases found : system.ledger.db.events.lookup id with
    | none =>
        rw [claimsOf_eq_nil limited.kept.settled.traced found] at atMost
        rw [List.length_nil] at atMost
        omega
    | some row =>
        have number := limited.numbered id row found
        have under := (limited.under id row found).1
        omega
  attempts row member :=
    (limited.under row.id row (Table.lookup_of_mem member)).1
  deadLettered := by
    intro row member undelivered last noLease
    have found := Table.lookup_of_mem member
    have under := (limited.under row.id row found).2
    cases status : row.status with
    | deadLetter => rfl
    | published =>
        obtain ⟨delivery, isDelivery, about, isOk⟩ :=
          limited.kept.coherent.delivered row member status
        exact absurd isOk (undelivered delivery isDelivery about)
    | pending =>
        have left := under (by rw [status]; rfl) noLease
        omega
    | failed =>
        have left := under (by rw [status]; rfl) noLease
        omega

/-- In every run whose dispatchers have one limit, and in which no claim and no
late record goes on with an event after its last attempt, no event is published
more often than the limit says. -/
theorem run_bounded (limit : Int) (positive : 0 < limit) (clock : Timestamp)
    (actions : List Action) (uses : ∀ action ∈ actions, UsesLimit limit action)
    (within : ∀ taken ∈ (initial clock).steps actions,
      taken.1.WithinLimit limit taken.2) :
    ((initial clock).run actions).Bounded limit := by
  have allowed : ∀ taken ∈ (initial clock).steps actions,
      UsesLimit limit taken.2 ∧ taken.1.WithinLimit limit taken.2 :=
    fun taken member =>
      ⟨uses taken.2 (mem_actions_of_mem_steps member), within taken member⟩
  have atEnd := invariant_of_steps
    (fun system action =>
      UsesLimit limit action ∧ system.WithinLimit limit action)
    (Limited.step positive) allowed (limited_initial clock limit)
  exact atEnd.bounded positive

namespace Poison

def event : NewOutboxEvent := Sample.event

/-- The publisher refuses the event, and the refusal is recorded. -/
def refuse (delivery : Nat) : List Action :=
  [.spawn delivery,
    .signal delivery .publishStarts,
    .signal delivery (.publishReturns (.error "refused")),
    .signal delivery .markBegins,
    .mark delivery []]

/-- Two attempts, and a dead letter. -/
def refused : List Action :=
  [.create "dispatcher" 2 1, .enqueue event 0 [], .dispatchOnce 0 10 [] []] ++
    refuse 0 ++ [.advanceClock 1000000, .dispatchOnce 0 10 [] []] ++ refuse 1

/-- The publisher panics at the only attempt, and the event is claimed again
when the lease has run out. -/
def panicked : List Action :=
  [.create "dispatcher" 1 1, .enqueue event 0 [], .dispatchOnce 0 10 [] [],
    .spawn 0, .signal 0 .publishStarts, .signal 0 .publishPanics,
    .advanceClock 31000000, .dispatchOnce 0 10 [] [],
    .spawn 1, .signal 1 .publishStarts]

end Poison

theorem refused_bounded :
    ((initial 0).run Poison.refused).Bounded 2 :=
  run_bounded 2 (by decide) 0 Poison.refused (by decide)
    (by decide)

/-- An event with one attempt is published twice. -/
theorem panicked_not_bounded :
    ¬ ∀ limit : Int, 0 < limit → ∀ clock actions,
      (∀ action ∈ actions, UsesLimit limit action) →
        ((initial clock).run actions).Bounded limit := by
  intro bounded
  have atMost := (bounded 1 (by decide) 0 Poison.panicked
    (by decide)).publications Poison.event.id
  have twice :
      ((initial 0).run Poison.panicked).publications Poison.event.id = 2 := by
    decide
  rw [twice] at atMost
  exact absurd atMost (by decide)

end Dispatching

end NetworkManager.PlatformEvents
