import NetworkManager.PlatformEvents.Ledger

/-!
# Dispatchers

A dispatcher claims a batch of events and goes through it in order.  For each
event it waits for a permit of its semaphore and spawns a task, which publishes
the event and records the outcome.  The task keeps the permit until it ends.

Any number of dispatchers run side by side, and the calls of one dispatcher may
overlap.  Each step of a task is a step of the run, so a task may be delayed at
every point, and one that has crashed takes no more steps.
-/

namespace NetworkManager.PlatformEvents

open NetworkManager.Foundation
open NetworkManager.Transaction

/-- The result of a call of the publisher. -/
inductive PublishResult where
  | ok
  | error (code : String)
deriving DecidableEq, Repr

/-- How far the delivery of a claimed event has come. -/
inductive Phase where
  | queued
  | spawned
  | publishing
  | panicked
  | returned (result : PublishResult)
  | marking (result : PublishResult) (began : Timestamp)
  | ended (result : PublishResult)
deriving DecidableEq, Repr

namespace Phase

/-- The task exists, and has not ended. -/
def holdsPermit : Phase → Bool
  | .spawned => true
  | .publishing => true
  | .returned _ => true
  | .marking _ _ => true
  | _ => false

/-- The event was handed to the publisher. -/
def started : Phase → Bool
  | .queued => false
  | .spawned => false
  | _ => true

/-- What the publisher has answered. -/
def result? : Phase → Option PublishResult
  | .returned result => some result
  | .marking result _ => some result
  | .ended result => some result
  | _ => none

end Phase

/-- What a task does on its own. -/
inductive Signal where
  | publishStarts
  | publishReturns (result : PublishResult)
  | publishPanics
  | markBegins
deriving DecidableEq, Repr

/-- The transaction that records the outcome begins at the time of the
clock. -/
def Phase.next (clock : Timestamp) : Signal → Phase → Phase
  | .publishStarts, .spawned => .publishing
  | .publishReturns result, .publishing => .returned result
  | .publishPanics, .publishing => .panicked
  | .markBegins, .returned result => .marking result clock
  | _, phase => phase

def Phase.afterMark : Phase → Phase
  | .marking result _ => .ended result
  | phase => phase

/-- One event of a call of `dispatch_once`, with what its task copies from the
dispatcher. -/
structure Delivery where
  dispatcher : Nat
  call : Nat
  workerId : String
  maxAttempts : Int
  event : OutboxEvent
  phase : Phase
deriving DecidableEq

def retryDelaySeconds (attempt : Int) : Nat :=
  let exponent := (clamp (attempt - 1) 0 6).toNat
  (clamp (2 ^ exponent) 1 60).toNat

/-- The mark that records an outcome. -/
def Delivery.completion (delivery : Delivery) : PublishResult → Completion
  | .ok => .published
  | .error code =>
      .failed code delivery.maxAttempts
        (retryDelaySeconds delivery.event.attempts)

structure Dispatcher where
  workerId : String
  maxAttempts : Int
  permits : Nat
deriving DecidableEq, Repr

def Dispatcher.lease (_ : Dispatcher) : Nat := 30

/-- `none` stands for the error `InvalidDispatcher`. -/
def Dispatcher.new (workerId : String) (maxAttempts : Int)
    (concurrency : Nat) : Option Dispatcher :=
  if isBlank workerId || decide (maxAttempts ≤ 0) ||
      decide (concurrency = 0) then
    none
  else
    some ⟨workerId, maxAttempts, min concurrency 64⟩

/-- The dispatchers that were created and the deliveries that their calls have
taken on, each in the order of its beginning. -/
structure Dispatching where
  ledger : Ledger
  dispatchers : List Dispatcher
  deliveries : List Delivery

namespace Dispatching

def initial (clock : Timestamp) : Dispatching := ⟨.initial clock, [], []⟩

inductive Action where
  | advanceClock (instant : Timestamp)
  | enqueue (event : NewOutboxEvent) (began : Timestamp)
      (plan : List (Option SqlError))
  | create (workerId : String) (maxAttempts : Int) (concurrency : Nat)
  | dispatchOnce (dispatcher : Nat) (batchSize : Int) (locked : List Uuid)
      (plan : List (Option SqlError))
  | spawn (delivery : Nat)
  | signal (delivery : Nat) (signal : Signal)
  | mark (delivery : Nat) (plan : List (Option SqlError))
deriving DecidableEq

/-- The call of the store that an action makes. -/
def operation (system : Dispatching) : Action → Option Operation
  | .advanceClock instant => some (.advanceClock instant)
  | .enqueue event began plan => some (.enqueue event began plan)
  | .dispatchOnce index batchSize locked plan =>
      system.dispatchers[index]?.map fun dispatcher =>
        .claim dispatcher.workerId batchSize dispatcher.lease locked plan
  | .mark index plan =>
      system.deliveries[index]?.bind fun delivery =>
        match delivery.phase with
        | .marking result began =>
            some (.complete delivery.workerId delivery.event
              (delivery.completion result) began plan)
        | _ => none
  | _ => none

/-- The deliveries that a call of `dispatch_once` takes on. -/
def claimed (system : Dispatching) (index : Nat) (batchSize : Int)
    (locked : List Uuid) (plan : List (Option SqlError)) : List Delivery :=
  match system.dispatchers[index]? with
  | none => []
  | some dispatcher =>
      match ((claim dispatcher.workerId batchSize dispatcher.lease
          system.ledger.clock locked).callFaulty plan system.ledger.db).1 with
      | .error _ => []
      | .ok events =>
          events.map fun event =>
            { dispatcher := index
              call := system.deliveries.length
              workerId := dispatcher.workerId
              maxAttempts := dispatcher.maxAttempts
              event
              phase := .queued }

/-- The next event of its call, when the dispatcher has a permit left. -/
def MaySpawn (system : Dispatching) (index : Nat) (delivery : Delivery) :
    Prop :=
  delivery.phase = .queued ∧
    (∀ earlier ∈ system.deliveries.take index,
      earlier.call = delivery.call → earlier.phase ≠ .queued) ∧
    ∃ dispatcher ∈ system.dispatchers[delivery.dispatcher]?,
      (system.deliveries.countP fun other =>
        decide (other.dispatcher = delivery.dispatcher) &&
          other.phase.holdsPermit) < dispatcher.permits

instance (system : Dispatching) (index : Nat) (delivery : Delivery) :
    Decidable (system.MaySpawn index delivery) := by
  unfold MaySpawn
  infer_instance

/-- What becomes of the delivery with a given index. -/
def advance (system : Dispatching) (index : Nat) (delivery : Delivery) :
    Action → Delivery
  | .spawn target =>
      if target = index ∧ system.MaySpawn index delivery then
        { delivery with phase := .spawned }
      else
        delivery
  | .signal target signal =>
      if target = index then
        { delivery with
          phase := delivery.phase.next system.ledger.clock signal }
      else
        delivery
  | .mark target _ =>
      if target = index then
        { delivery with phase := delivery.phase.afterMark }
      else
        delivery
  | _ => delivery

def created : Action → List Dispatcher
  | .create workerId maxAttempts concurrency =>
      (Dispatcher.new workerId maxAttempts concurrency).toList
  | _ => []

def takenOn (system : Dispatching) : Action → List Delivery
  | .dispatchOnce index batchSize locked plan =>
      system.claimed index batchSize locked plan
  | _ => []

/-- An action that cannot be taken changes nothing. -/
def step (system : Dispatching) (action : Action) : Dispatching where
  ledger := (system.operation action).elim system.ledger system.ledger.step
  dispatchers := system.dispatchers ++ created action
  deliveries :=
    (system.deliveries.mapIdx fun index delivery =>
      system.advance index delivery action) ++ system.takenOn action

def run (system : Dispatching) (actions : List Action) : Dispatching :=
  actions.foldl step system

/-- Each action of a run, with the state in which it is taken. -/
def steps : Dispatching → List Action → List (Dispatching × Action)
  | _, [] => []
  | system, action :: rest =>
      (system, action) :: steps (system.step action) rest

theorem mem_steps_run (system : Dispatching) (actions : List Action)
    (action : Action) :
    (system.run actions, action) ∈ system.steps (actions ++ [action]) := by
  induction actions generalizing system with
  | nil => exact List.mem_singleton_self _
  | cons first rest inductionHypothesis =>
      exact List.mem_cons_of_mem _ (inductionHypothesis (system.step first))

theorem mem_actions_of_mem_steps {taken : Dispatching × Action} :
    ∀ {system : Dispatching} {actions : List Action},
      taken ∈ system.steps actions → taken.2 ∈ actions
  | system, action :: rest, member => by
      rcases List.mem_cons.mp member with rfl | later
      · exact List.mem_cons_self ..
      · exact List.mem_cons_of_mem action (mem_actions_of_mem_steps later)

/-! ## What a step does -/

/-- An action makes at most one call of the store. -/
theorem ledger_step (system : Dispatching) (action : Action) :
    (system.step action).ledger = system.ledger ∨
      ∃ call, system.operation action = some call ∧
        system.ledger.Moves call (system.step action).ledger := by
  cases made : system.operation action with
  | none => exact Or.inl (by rw [step, made, Option.elim_none])
  | some call =>
      refine Or.inr ⟨call, rfl, ?_⟩
      have reached : (system.step action).ledger = system.ledger.step call := by
        rw [step, made, Option.elim_some]
      rw [reached]
      exact system.ledger.step_moves call

/-- The action makes a call that is committed, or the clock at most goes on. -/
theorem ledger_step_commits (system : Dispatching) (action : Action) :
    (∃ instant, system.ledger.Moves (.advanceClock instant)
        (system.step action).ledger) ∨
      ∃ call, system.operation action = some call ∧
        system.ledger.Commits call ∧
        system.ledger.Moves call (system.step action).ledger := by
  cases made : system.operation action with
  | none =>
      have same : (system.step action).ledger = system.ledger := by
        rw [step, made, Option.elim_none]
      rw [same]
      exact Or.inl ⟨0, .stays system.ledger _⟩
  | some call =>
      have reached : (system.step action).ledger = system.ledger.step call := by
        rw [step, made, Option.elim_some]
      rw [reached]
      rcases system.ledger.commits_or_waits call with commits | waits
      · exact Or.inr ⟨call, rfl, commits, system.ledger.step_moves call⟩
      · exact Or.inl waits

/-- What holds at the start, and is kept by every action that meets a
condition, holds at the end of every run whose actions do. -/
theorem invariant_of_steps {holds : Dispatching → Prop}
    (allowed : Dispatching → Action → Prop)
    (kept : ∀ {system action}, allowed system action → holds system →
      holds (system.step action)) :
    ∀ {system : Dispatching} {actions : List Action},
      (∀ taken ∈ system.steps actions, allowed taken.1 taken.2) →
      holds system → holds (system.run actions)
  | _, [], _, start => start
  | system, action :: rest, everyStep, start => by
      have first := everyStep _ (List.mem_cons_self ..)
      have later : ∀ taken ∈ (system.step action).steps rest,
          allowed taken.1 taken.2 :=
        fun taken member => everyStep taken (List.mem_cons_of_mem _ member)
      have atEnd := invariant_of_steps allowed kept later (kept first start)
      exact atEnd

/-- What every action keeps, every run keeps. -/
theorem invariant_of_actions {holds : Dispatching → Prop}
    (kept : ∀ {system} action, holds system → holds (system.step action))
    {system : Dispatching} (start : holds system) (actions : List Action) :
    holds (system.run actions) :=
  invariant_of_steps (fun _ _ => True) (fun _ before => kept _ before)
    (fun _ _ => trivial) start

/-- What every action keeps holds in every state in which a run takes one. -/
theorem invariant_at_steps {holds : Dispatching → Prop}
    (kept : ∀ {system} action, holds system → holds (system.step action)) :
    ∀ {system : Dispatching} {actions : List Action}, holds system →
      ∀ taken ∈ system.steps actions, holds taken.1
  | system, action :: rest, start, taken, member => by
      rcases List.mem_cons.mp member with rfl | later
      · exact start
      · exact invariant_at_steps kept (kept action start) taken later

/-- What every call of the store keeps, every action keeps. -/
theorem ledger_kept {holds : Ledger → Prop}
    (kept : ∀ {ledger call reached}, ledger.Moves call reached →
      holds ledger → holds reached)
    {system : Dispatching} {action : Action} (before : holds system.ledger) :
    holds (system.step action).ledger := by
  rcases system.ledger_step action with same | ⟨call, _, moves⟩
  · rw [same]
    exact before
  · exact kept moves before

/-- A delivery is one that a call has just taken on, or it goes on with what it
was about. -/
theorem mem_deliveries_step {system : Dispatching} {action : Action}
    {delivery : Delivery}
    (member : delivery ∈ (system.step action).deliveries) :
    (∃ index batchSize locked plan,
        action = .dispatchOnce index batchSize locked plan ∧
          delivery ∈ system.claimed index batchSize locked plan) ∨
      ∃ index old, system.deliveries[index]? = some old ∧
        delivery = system.advance index old action := by
  rcases List.mem_append.mp member with old | new
  · obtain ⟨index, before, moved⟩ := List.mem_mapIdx.mp old
    refine Or.inr ⟨index, _, List.getElem?_eq_getElem before, moved.symm⟩
  · cases action with
    | dispatchOnce index batchSize locked plan =>
        exact Or.inl ⟨index, batchSize, locked, plan, rfl, new⟩
    | _ => cases new

/-- A delivery stays about the same event, worker and call. -/
theorem advance_eq (system : Dispatching) (index : Nat) (delivery : Delivery)
    (action : Action) :
    ∃ phase, system.advance index delivery action = { delivery with phase } := by
  cases action with
  | spawn target =>
      rw [advance]
      split_ifs with spawned
      · exact ⟨_, rfl⟩
      · exact ⟨delivery.phase, rfl⟩
  | signal target signal =>
      rw [advance]
      split_ifs with isTarget
      · exact ⟨_, rfl⟩
      · exact ⟨delivery.phase, rfl⟩
  | mark target plan =>
      rw [advance]
      split_ifs with isTarget
      · exact ⟨_, rfl⟩
      · exact ⟨delivery.phase, rfl⟩
  | _ => exact ⟨delivery.phase, rfl⟩

private theorem getElem?_advance {system : Dispatching} {index : Nat}
    {delivery : Delivery} (found : system.deliveries[index]? = some delivery)
    (action : Action) :
    system.advance index delivery action ∈ (system.step action).deliveries := by
  obtain ⟨inBounds, rfl⟩ := List.getElem?_eq_some_iff.mp found
  apply List.mem_append_left
  exact List.mem_mapIdx.mpr ⟨index, inBounds, rfl⟩

/-- A call takes on nothing, or what its claim returned. -/
theorem dispatchOnce_cases (system : Dispatching) (index : Nat)
    (batchSize : Int) (locked : List Uuid) (plan : List (Option SqlError)) :
    (system.claimed index batchSize locked plan = [] ∧
        (system.step (.dispatchOnce index batchSize locked plan)).ledger =
          system.ledger) ∨
      ∃ dispatcher limit, system.dispatchers[index]? = some dispatcher ∧
        system.claimed index batchSize locked plan =
          (system.ledger.claimCall limit dispatcher.workerId 30
            locked).events.map (fun event =>
              ⟨index, system.deliveries.length, dispatcher.workerId,
                dispatcher.maxAttempts, event, .queued⟩) ∧
        (system.step (.dispatchOnce index batchSize locked plan)).ledger =
          { system.ledger with
            db := system.ledger.db.claimed limit dispatcher.workerId 30
              system.ledger.clock locked
            log := .claimed (system.ledger.claimCall limit dispatcher.workerId
              30 locked) :: system.ledger.log } := by
  cases found : system.dispatchers[index]? with
  | none =>
      refine Or.inl ⟨?_, ?_⟩
      · rw [claimed, found]
      · simp only [step, operation, found, Option.map_none, Option.elim_none]
  | some dispatcher =>
      have makes : (system.step
          (.dispatchOnce index batchSize locked plan)).ledger =
            system.ledger.step (.claim dispatcher.workerId batchSize
              dispatcher.lease locked plan) := by
        simp only [step, operation, found, Option.map_some, Option.elim_some]
      have lease : clamp (dispatcher.lease : Int) 1 300 = 30 := by
        rw [Dispatcher.lease]
        decide
      have cases := system.ledger.step_claim_cases dispatcher.workerId batchSize
        dispatcher.lease locked plan
      rw [lease] at cases
      rcases cases with ⟨failure, lost, same⟩ | ⟨returned, reached⟩
      · refine Or.inl ⟨?_, makes.trans same⟩
        simp only [claimed, found, lost]
      · refine Or.inr ⟨dispatcher, (clamp batchSize 1 250).toNat, rfl, ?_,
          makes.trans reached⟩
        simp only [claimed, found, returned]

/-- The events that calls have taken on. -/
def takenIds (system : Dispatching) : List Uuid :=
  system.deliveries.map fun delivery => delivery.event.id

private theorem takenIds_step (system : Dispatching) (action : Action) :
    (system.step action).takenIds =
      system.takenIds ++
        (system.takenOn action).map fun delivery => delivery.event.id := by
  have sameIds : (system.deliveries.mapIdx fun index delivery =>
      system.advance index delivery action).map
        (fun delivery => delivery.event.id) =
      system.deliveries.map fun delivery => delivery.event.id := by
    apply List.ext_getElem
    · simp
    · intro index before after
      have inBounds : index < system.deliveries.length := by
        simpa using after
      simp only [List.getElem_map, List.getElem_mapIdx]
      obtain ⟨phase, same⟩ := system.advance_eq index
        system.deliveries[index] action
      rw [same]
  rw [takenIds, step, List.map_append, sameIds, takenIds]

/-- Every event is taken on as often as claims have returned it. -/
def Counted (system : Dispatching) : Prop :=
  ∀ id, system.takenIds.count id = (claimsOf id system.ledger.log).length

private theorem nodup_claimCall
    (ledger : Ledger) (limit : Nat) (workerId : String)
    (leaseSeconds : Int) (locked : List Uuid) :
    ((ledger.claimCall limit workerId leaseSeconds locked).events.map
      OutboxEvent.id).Nodup := by
  have nodup := nodup_picked limit ledger.clock locked ledger.db
  have sameIds : (ledger.claimCall limit workerId leaseSeconds
      locked).events.map OutboxEvent.id =
        (picked limit ledger.clock locked ledger.db).map OutboxRow.id :=
    List.map_map
  rw [sameIds]
  exact nodup

private theorem count_claimCall
    (ledger : Ledger) (limit : Nat) (workerId : String)
    (leaseSeconds : Int) (locked : List Uuid) (id : Uuid) :
    (claimsOf id (.claimed (ledger.claimCall limit workerId leaseSeconds
        locked) :: ledger.log)).length =
      (claimsOf id ledger.log).length +
        ((ledger.claimCall limit workerId leaseSeconds locked).events.map
          OutboxEvent.id).count id := by
  have nodup := nodup_claimCall ledger limit workerId leaseSeconds locked
  by_cases returned :
      (ledger.claimCall limit workerId leaseSeconds locked).Returns id
  · have member : id ∈ (ledger.claimCall limit workerId leaseSeconds
        locked).events.map OutboxEvent.id := List.mem_map.mpr returned
    rw [List.count_eq_one_of_mem nodup member, claimsOf_claimed returned,
      List.length_cons]
  · have notMember : id ∉ (ledger.claimCall limit workerId leaseSeconds
        locked).events.map OutboxEvent.id :=
      fun member => returned (List.mem_map.mp member)
    have other : ¬(Entry.claimed (ledger.claimCall limit workerId leaseSeconds
        locked)).Concerns id := returned
    rw [List.count_eq_zero_of_not_mem notMember,
      claimsOf_cons_of_not_concerns other, Nat.add_zero]

private theorem moves_claimsOf {ledger reached : Ledger} {call : Operation}
    (moves : ledger.Moves call reached)
    (noClaim : ∀ workerId batchSize lease locked plan,
      call ≠ .claim workerId batchSize lease locked plan) (id : Uuid) :
    claimsOf id reached.log = claimsOf id ledger.log := by
  cases moves with
  | waits _ _ => rfl
  | enqueues _ _ _ => exact claimsOf_cons_of_none rfl _
  | claims workerId batchSize lease locked plan =>
      exact absurd rfl (noClaim workerId batchSize lease locked plan)
  | completes _ _ _ _ _ _ => exact claimsOf_cons_of_none rfl _

private theorem claimsOf_step {system : Dispatching} {action : Action}
    (other : ∀ index batchSize locked plan,
      action ≠ .dispatchOnce index batchSize locked plan) (id : Uuid) :
    claimsOf id (system.step action).ledger.log =
      claimsOf id system.ledger.log := by
  rcases system.ledger_step action with same | ⟨call, made, moves⟩
  · rw [same]
  · refine moves_claimsOf moves ?_ id
    rintro workerId batchSize lease locked plan rfl
    cases action with
    | dispatchOnce index batchSize locked plan =>
        exact other index batchSize locked plan rfl
    | mark index plan =>
        obtain ⟨delivery, _, marks⟩ := Option.bind_eq_some_iff.mp made
        split at marks <;> cases marks
    | _ => cases made

theorem Counted.step {system : Dispatching} (counted : system.Counted)
    (action : Action) : (system.step action).Counted := by
  intro id
  have before := counted id
  rw [takenIds_step, List.count_append, before]
  by_cases dispatches : ∃ index batchSize locked plan,
      action = .dispatchOnce index batchSize locked plan
  · obtain ⟨index, batchSize, locked, plan, rfl⟩ := dispatches
    rcases system.dispatchOnce_cases index batchSize locked plan with
      ⟨nothing, same⟩ | ⟨dispatcher, limit, _, taken, reached⟩
    · rw [takenOn, nothing, same]
      rfl
    · rw [takenOn, taken, reached, count_claimCall, List.map_map]
      rfl
  · have other : ∀ index batchSize locked plan,
        action ≠ .dispatchOnce index batchSize locked plan :=
      fun index batchSize locked plan same =>
        dispatches ⟨index, batchSize, locked, plan, same⟩
    have nothing : system.takenOn action = [] := by
      cases action with
      | dispatchOnce index batchSize locked plan =>
          exact absurd rfl (other index batchSize locked plan)
      | _ => rfl
    rw [claimsOf_step other, nothing]
    rfl

private theorem result?_advance {system : Dispatching} {index : Nat}
    {delivery : Delivery} {result : PublishResult}
    (answered : delivery.phase.result? = some result) (action : Action) :
    (system.advance index delivery action).phase.result? = some result := by
  have kept (signal : Signal) :
      (delivery.phase.next system.ledger.clock signal).result? =
        some result := by
    cases phase : delivery.phase with
    | queued => simp [phase, Phase.result?] at answered
    | spawned => simp [phase, Phase.result?] at answered
    | publishing => simp [phase, Phase.result?] at answered
    | panicked => simp [phase, Phase.result?] at answered
    | returned given =>
        rw [phase] at answered
        cases signal <;> exact answered
    | marking given began =>
        rw [phase] at answered
        cases signal <;> exact answered
    | ended given =>
        rw [phase] at answered
        cases signal <;> exact answered
  cases action with
  | spawn target =>
      rw [advance]
      split_ifs with spawned
      · rw [spawned.2.1] at answered
        cases answered
      · exact answered
  | signal target signal =>
      rw [advance]
      split_ifs with isTarget
      · exact kept signal
      · exact answered
  | mark target plan =>
      rw [advance]
      split_ifs with isTarget
      · cases phase : delivery.phase <;> rw [phase] at answered <;>
          exact answered
      · exact answered
  | _ => exact answered

/-- A mark that was committed is one of a delivery whose publisher has
answered accordingly. -/
def Answered (system : Dispatching) : Prop :=
  ∀ workerId event, .completed workerId event .published ∈ system.ledger.log →
    ∃ delivery ∈ system.deliveries, delivery.event = event ∧
      delivery.phase.result? = some .ok

private theorem operation_eq_complete {system : Dispatching} {action : Action}
    {workerId : String} {event : OutboxEvent} {completion : Completion}
    {began : Timestamp} {plan : List (Option SqlError)}
    (made : system.operation action =
      some (.complete workerId event completion began plan)) :
    ∃ index delivery result, action = .mark index plan ∧
      system.deliveries[index]? = some delivery ∧
      delivery.phase = .marking result began ∧
      delivery.workerId = workerId ∧ delivery.event = event ∧
      delivery.completion result = completion := by
  cases action with
  | mark index plan =>
      obtain ⟨delivery, found, marks⟩ := Option.bind_eq_some_iff.mp made
      split at marks
      · rename_i result began phase
        cases marks
        exact ⟨index, delivery, result, rfl, found, phase, rfl, rfl, rfl⟩
      · cases marks
  | dispatchOnce index batchSize locked plan =>
      obtain ⟨dispatcher, _, wrong⟩ := Option.map_eq_some_iff.mp made
      cases wrong
  | _ => cases made

theorem Answered.step {system : Dispatching} (answered : system.Answered)
    (action : Action) : (system.step action).Answered := by
  intro workerId event logged
  have stays (old : .completed workerId event .published ∈
      system.ledger.log) :
      ∃ delivery ∈ (system.step action).deliveries, delivery.event = event ∧
        delivery.phase.result? = some .ok := by
    obtain ⟨delivery, member, isEvent, isOk⟩ := answered workerId event old
    obtain ⟨index, found⟩ := List.mem_iff_getElem?.mp member
    obtain ⟨phase, moved⟩ := system.advance_eq index delivery action
    refine ⟨_, getElem?_advance found action, ?_,
      result?_advance isOk action⟩
    rw [moved]
    exact isEvent
  rcases system.ledger_step action with same | ⟨call, made, moves⟩
  · rw [same] at logged
    exact stays logged
  · rcases moves.mem_completed logged with old | ⟨began, plan, rfl⟩
    · exact stays old
    · obtain ⟨index, delivery, result, rfl, found, phase, _, isEvent,
        completes⟩ := operation_eq_complete made
      have isOk : result = .ok := by
        cases result with
        | ok => rfl
        | error code => cases completes
      refine ⟨_, getElem?_advance found (.mark index plan), ?_, ?_⟩
      · obtain ⟨_, moved⟩ :=
          system.advance_eq index delivery (.mark index plan)
        rw [moved]
        exact isEvent
      · apply result?_advance
        rw [phase, isOk]
        rfl

/-- The delivery comes from a claim of its worker; a mark that has begun has
begun after it. -/
def Sourced (ledger : Ledger) (delivery : Delivery) : Prop :=
  ∃ call : ClaimCall, .claimed call ∈ ledger.log ∧
    delivery.event ∈ call.events ∧ call.workerId = delivery.workerId ∧
    call.leaseSeconds = 30 ∧ call.instant ≤ ledger.clock ∧
    ∀ result began, delivery.phase = .marking result began →
      call.instant ≤ began ∧ began ≤ ledger.clock

theorem moves_grows {ledger reached : Ledger} {call : Operation}
    (moves : ledger.Moves call reached) :
    ledger.clock ≤ reached.clock ∧ ledger.log ⊆ reached.log := by
  cases moves with
  | waits _ later => exact ⟨later, List.Subset.refl _⟩
  | enqueues _ _ _ => exact ⟨le_rfl, List.subset_cons_self _ _⟩
  | claims _ _ _ _ _ => exact ⟨le_rfl, List.subset_cons_self _ _⟩
  | completes _ _ _ _ _ _ => exact ⟨le_rfl, List.subset_cons_self _ _⟩

private theorem ledger_grows (system : Dispatching) (action : Action) :
    system.ledger.clock ≤ (system.step action).ledger.clock ∧
      system.ledger.log ⊆ (system.step action).ledger.log := by
  rcases system.ledger_step action with same | ⟨call, _, moves⟩
  · rw [same]
    exact ⟨le_rfl, List.Subset.refl _⟩
  · exact moves_grows moves

private theorem next_eq_marking {clock began : Timestamp} {signal : Signal}
    {phase : Phase} {result : PublishResult}
    (marks : phase.next clock signal = .marking result began) :
    phase = .marking result began ∨ began = clock := by
  cases phase <;> cases signal <;> simp_all [Phase.next]

private theorem afterMark_ne_marking
    {began : Timestamp} {result : PublishResult}
    (phase : Phase) : phase.afterMark ≠ .marking result began := by
  cases phase <;> simp [Phase.afterMark]

private theorem phase_advance_eq_marking {system : Dispatching} {index : Nat}
    {delivery : Delivery} {action : Action} {result : PublishResult}
    {began : Timestamp}
    (marks : (system.advance index delivery action).phase =
      .marking result began) :
    delivery.phase = .marking result began ∨ began = system.ledger.clock := by
  cases action with
  | spawn target =>
      rw [advance] at marks
      split_ifs at marks
      exact Or.inl marks
  | signal target signal =>
      rw [advance] at marks
      split_ifs at marks with isTarget
      · exact next_eq_marking marks
      · exact Or.inl marks
  | mark target plan =>
      rw [advance] at marks
      split_ifs at marks with isTarget
      · exact absurd marks (afterMark_ne_marking _)
      · exact Or.inl marks
  | _ => exact Or.inl marks

theorem sourced_step {system : Dispatching}
    (sourced : ∀ delivery ∈ system.deliveries,
      Sourced system.ledger delivery) (action : Action) :
    ∀ delivery ∈ (system.step action).deliveries,
      Sourced (system.step action).ledger delivery := by
  intro delivery member
  obtain ⟨later, more⟩ := system.ledger_grows action
  rcases mem_deliveries_step member with
    ⟨index, batchSize, locked, plan, rfl, taken⟩ | ⟨index, old, found, rfl⟩
  · rcases system.dispatchOnce_cases index batchSize locked plan with
      ⟨nothing, _⟩ | ⟨dispatcher, limit, _, same, reached⟩
    · rw [nothing] at taken
      cases taken
    · rw [same] at taken
      obtain ⟨event, returned, rfl⟩ := List.mem_map.mp taken
      rw [reached]
      refine ⟨_, List.mem_cons_self .., returned, rfl, rfl, le_rfl, ?_⟩
      intro result began marks
      cases marks
  · obtain ⟨call, logged, returned, sameWorker, lease, past, marking⟩ :=
      sourced old (List.mem_of_getElem? found)
    obtain ⟨phase, moved⟩ := system.advance_eq index old action
    refine ⟨call, more logged, ?_, ?_, lease, past.trans later, ?_⟩
    · rw [moved]
      exact returned
    · rw [moved]
      exact sameWorker
    · intro result began marks
      rcases phase_advance_eq_marking marks with before | now
      · obtain ⟨after, notLater⟩ := marking result began before
        exact ⟨after, notLater.trans later⟩
      · rw [now]
        exact ⟨past, later⟩

end Dispatching

end NetworkManager.PlatformEvents
