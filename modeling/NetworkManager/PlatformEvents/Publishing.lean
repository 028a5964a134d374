import NetworkManager.PlatformEvents.Dispatcher

/-!
# Publishing under a lease

The lease of a claim runs from the claim of the whole batch, and an event waits
for a permit before it is published.  The task does not look at the lease again:
delivery is at least once, and consumers are idempotent.

The lease holds as long as it lasts, unless the same worker completes the event
in the meantime, by an attempt that is still under way.
-/

namespace NetworkManager.PlatformEvents

open NetworkManager.Foundation
open NetworkManager.Transaction

/-- The worker holds a lease on the event that has not run out, under the
attempt that it claimed. -/
def Ledger.UnderLease (ledger : Ledger) (workerId : String)
    (event : OutboxEvent) : Prop :=
  ∃ row ∈ ledger.db.events.lookup event.id, row.attempts = event.attempts ∧
    ∃ lease ∈ row.lease, lease.owner = workerId ∧
      ledger.clock ≤ lease.expiresAt

instance (ledger : Ledger) (workerId : String) (event : OutboxEvent) :
    Decidable (ledger.UnderLease workerId event) := by
  unfold Ledger.UnderLease
  infer_instance

/-- The worker has completed the event. -/
def Entry.CompletedBy (workerId : String) (eventId : Uuid) : Entry → Prop
  | .completed holder event _ => holder = workerId ∧ event.id = eventId
  | _ => False

/-- The event comes from a claim of the worker with a lease of 30 seconds, and
is under it if they are not over and the worker has not completed the event
since. -/
def Ledger.UnderClaim (ledger : Ledger) (workerId : String)
    (event : OutboxEvent) : Prop :=
  ∃ call since older, ledger.log = since ++ .claimed call :: older ∧
    event ∈ call.events ∧ call.workerId = workerId ∧ call.leaseSeconds = 30 ∧
    (ledger.clock ≤ call.instant + intervalSeconds 30 →
      (∀ entry ∈ since, ¬entry.CompletedBy workerId event.id) →
      ledger.UnderLease workerId event)

namespace Dispatching

/-- What holds of the delivery whose publishing starts. -/
def Publishes (holds : Ledger → String → OutboxEvent → Prop)
    (system : Dispatching) : Action → Prop
  | .signal index .publishStarts =>
      ∀ delivery ∈ system.deliveries[index]?, delivery.phase = .spawned →
        holds system.ledger delivery.workerId delivery.event
  | _ => True

end Dispatching

section Claims

variable {ledger reached : Ledger} {operation : Operation}

/-- A claim leases the rows of its events until its lease runs out or its
worker completes them. -/
def Ledger.Leased (ledger : Ledger) : Prop :=
  ∀ call since older, ledger.log = since ++ .claimed call :: older →
    ∀ event ∈ call.events,
      ledger.clock ≤ call.instant + intervalSeconds call.leaseSeconds →
      (∀ entry ∈ since, ¬entry.CompletedBy call.workerId event.id) →
      ∃ row, ledger.db.events.lookup event.id = some row ∧
        row.attempts = event.attempts ∧
        row.lease = some ⟨call.workerId,
          call.instant + intervalSeconds call.leaseSeconds⟩

/-- The row is still leased after a step that the lease outlasts and that does
not complete the event. -/
theorem leased_kept (moves : ledger.Moves operation reached) {id : Uuid}
    {old : OutboxRow} {lease : Lease} {log : List Entry}
    (found : ledger.db.events.lookup id = some old)
    (held : old.lease = some lease) (lasts : reached.clock ≤ lease.expiresAt)
    (logged : reached.log = log ++ ledger.log)
    (uncompleted : ∀ entry ∈ log, ¬entry.CompletedBy lease.owner id) :
    reached.db.events.lookup id = some old := by
  have present := moves.isSome_lookup (Option.isSome_of_eq_some found)
  obtain ⟨row, after⟩ := Option.isSome_iff_exists.mp present
  cases moves.row after with
  | waits _ before =>
      rw [found] at before
      cases before
      exact after
  | passed before _ _ =>
      rw [found] at before
      cases before
      exact after
  | enqueued absent _ _ =>
      rw [found] at absent
      cases absent
  | claimed _ before isPicked _ =>
      rw [found] at before
      cases before
      have may := (mem_of_mem_picked isPicked).2
      simp only [claimable, held, Option.all_some, Bool.and_eq_true,
        decide_eq_true_eq] at may
      exact absurd lasts (not_le_of_gt may.1.2)
  | @completed workerId event completion began plan _ db _ _ isEvent leased _ _
      _ =>
      obtain ⟨before, other, isHeld, owner⟩ := leasedTo_eq_some leased
      rw [found] at before
      cases before
      have sameLease : lease = other := by
        rw [held] at isHeld
        exact Option.some.inj isHeld
      have appended : [Entry.completed workerId event completion] ++
          ledger.log = log ++ ledger.log := logged
      have inLog : .completed workerId event completion ∈ log := by
        rw [← List.append_cancel_right appended]
        exact List.mem_singleton_self _
      refine absurd ?_ (uncompleted _ inLog)
      exact ⟨by rw [sameLease, owner], isEvent⟩

private theorem leased_claims
    (ledger : Ledger) (workerId : String) (limit : Nat)
    (leaseSeconds : Int) (locked : List Uuid) {event : OutboxEvent}
    (returned : event ∈ (ledger.claimCall limit workerId leaseSeconds
      locked).events) :
    ∃ row, (ledger.db.claimed limit workerId leaseSeconds ledger.clock
        locked).events.lookup event.id = some row ∧
      row.attempts = event.attempts ∧
      row.lease = some ⟨workerId,
        ledger.clock + intervalSeconds leaseSeconds⟩ := by
  obtain ⟨row, isPicked, rfl⟩ := List.mem_map.mp returned
  have found : (ledger.db.claimed limit workerId leaseSeconds ledger.clock
      locked).events.lookup row.id =
        some (claimRow workerId leaseSeconds ledger.clock row) :=
    lookup_claimed_of_mem_picked isPicked
  exact ⟨_, found, rfl, rfl⟩

private theorem Ledger.Leased.step (moves : ledger.Moves operation reached)
    (leased : ledger.Leased) : reached.Leased := by
  intro call since older logged event returned lasts uncompleted
  -- What was leased before is leased after, by the entries that were added.
  have stays (before log : List Entry)
      (split : ledger.log = before ++ .claimed call :: older)
      (added : reached.log = log ++ ledger.log) (both : since = log ++ before) :
      ∃ row, reached.db.events.lookup event.id = some row ∧
        row.attempts = event.attempts ∧
        row.lease = some ⟨call.workerId,
          call.instant + intervalSeconds call.leaseSeconds⟩ := by
    have later : ledger.clock ≤ reached.clock := (Dispatching.moves_grows moves).1
    have earlier : ∀ entry ∈ before,
        ¬entry.CompletedBy call.workerId event.id := by
      intro entry member
      apply uncompleted
      rw [both]
      exact List.mem_append_right log member
    have since : ∀ entry ∈ log,
        ¬entry.CompletedBy call.workerId event.id := by
      intro entry member
      apply uncompleted
      rw [both]
      exact List.mem_append_left before member
    obtain ⟨row, found, attempts, held⟩ := leased call before older split event
      returned (later.trans lasts) earlier
    exact ⟨row, leased_kept moves found held lasts added since, attempts, held⟩
  cases since with
  | nil =>
      cases moves with
      | waits _ _ => exact stays _ [] logged rfl rfl
      | enqueues _ _ _ => cases logged
      | completes _ _ _ _ _ _ => cases logged
      | claims workerId batchSize lease locked plan =>
          cases logged
          exact leased_claims ledger workerId (clamp batchSize 1 250).toNat
            (clamp lease 1 300) locked returned
  | cons entry before =>
      cases moves with
      | waits _ _ => exact stays _ [] logged rfl rfl
      | enqueues began plan absent =>
          obtain ⟨rfl, split⟩ := List.cons.inj logged
          exact stays before [_] split rfl rfl
      | completes completion plan _ _ _ _ =>
          obtain ⟨rfl, split⟩ := List.cons.inj logged
          exact stays before [_] split rfl rfl
      | claims workerId batchSize lease locked plan =>
          obtain ⟨rfl, split⟩ := List.cons.inj logged
          exact stays before [_] split rfl rfl

end Claims

namespace Dispatching

/-- Every delivery comes from a claim, and every claim leases its rows. -/
structure Backed (system : Dispatching) : Prop where
  sourced : ∀ delivery ∈ system.deliveries, Sourced system.ledger delivery
  leased : system.ledger.Leased

private theorem Backed.step {system : Dispatching} (action : Action)
    (backed : system.Backed) : (system.step action).Backed where
  sourced := sourced_step backed.sourced action
  leased := ledger_kept Ledger.Leased.step backed.leased

private theorem backed_initial
    (clock : Timestamp) : (initial clock).Backed where
  sourced := by
    intro delivery member
    cases member
  leased := by
    intro call since older logged
    simp [initial, Ledger.initial] at logged

private theorem Backed.underClaim
    {system : Dispatching} (backed : system.Backed)
    {delivery : Delivery} (member : delivery ∈ system.deliveries) :
    system.ledger.UnderClaim delivery.workerId delivery.event := by
  obtain ⟨call, logged, returned, sameWorker, seconds, _, _⟩ :=
    backed.sourced delivery member
  obtain ⟨since, older, split⟩ := List.append_of_mem logged
  refine ⟨call, since, older, split, returned, sameWorker, seconds, ?_⟩
  intro lasts uncompleted
  rw [← sameWorker] at uncompleted ⊢
  rw [← seconds] at lasts
  obtain ⟨row, found, attempts, held⟩ :=
    backed.leased call since older split delivery.event returned lasts
      uncompleted
  exact ⟨row, found, attempts, _, held, rfl, lasts⟩

/-- In every run, a publish that starts within 30 seconds of its claim, and
before its worker has completed the event in another way, starts under the lease
of that claim. -/
theorem run_publishes (clock : Timestamp) (actions : List Action) :
    ∀ taken ∈ (initial clock).steps actions,
      Publishes Ledger.UnderClaim taken.1 taken.2 := by
  intro taken member
  have backed := invariant_at_steps Backed.step (backed_initial clock) taken
    member
  cases act : taken.2 with
  | signal index signal =>
      cases signal with
      | publishStarts =>
          intro delivery found _
          exact backed.underClaim (List.mem_of_getElem? found)
      | _ => trivial
  | _ => trivial

namespace Queued

def first : NewOutboxEvent := Sample.event

def second : NewOutboxEvent := { Sample.event with id := ⟨9⟩ }

/-- One permit, and a first publish that takes 31 seconds.  In the meantime
another worker claims the second event. -/
def overtaken : List Action :=
  [.create "first" 5 1, .create "second" 5 1,
    .enqueue first 0 [], .enqueue second 0 [],
    .dispatchOnce 0 2 [] [],
    .spawn 0, .signal 0 .publishStarts,
    .advanceClock 31000000,
    .signal 0 (.publishReturns .ok), .signal 0 .markBegins, .mark 0 [],
    .dispatchOnce 1 2 [] [],
    .spawn 1]

def starts : Action := .signal 1 .publishStarts

def beforeStart : Dispatching := (initial 0).run overtaken

/-- The second event, as the first worker has claimed it. -/
def waiting : Delivery :=
  { dispatcher := 0
    call := 0
    workerId := "first"
    maxAttempts := 5
    event := ⟨second, 1⟩
    phase := .spawned }

end Queued

theorem first_publishes :
    Publishes Ledger.UnderClaim ((initial 0).run (Queued.overtaken.take 6))
      (.signal 0 .publishStarts) :=
  run_publishes 0 (Queued.overtaken.take 6 ++ [.signal 0 .publishStarts])
    (_, _) (mem_steps_run _ _ _)

/-- The first worker starts to publish the second event while another one holds
it. -/
theorem overtaken_not_publishes :
    ¬ ∀ clock actions, ∀ taken ∈ (initial clock).steps actions,
      Publishes Ledger.UnderLease taken.1 taken.2 := by
  intro publishes
  have taken : (Queued.beforeStart, Queued.starts) ∈
      (initial 0).steps (Queued.overtaken ++ [Queued.starts]) :=
    mem_steps_run _ _ _
  have found : Queued.beforeStart.deliveries[1]? = some Queued.waiting := by
    decide
  have underLease : Queued.beforeStart.ledger.UnderLease "first"
      ⟨Queued.second, 1⟩ :=
    publishes 0 _ _ taken Queued.waiting found rfl
  have overtaken : ¬ Queued.beforeStart.ledger.UnderLease "first"
      ⟨Queued.second, 1⟩ := by
    decide
  exact overtaken underLease

end Dispatching

end NetworkManager.PlatformEvents
