import NetworkManager.PlatformEvents.Dispatcher

/-!
# Calls of a dispatcher

A call of `dispatch_once` claims a batch, spawns a task for each event when a
permit is free, and then awaits the handles in the order of spawning.  It
returns at the first task that fails, so a later task may outlive the call.

The semaphore is never closed, so a wait for a permit does not fail.
-/

namespace NetworkManager.PlatformEvents

inductive DispatchError where
  | store (failure : OutboxError)
  | dispatcherTaskFailed
deriving DecidableEq, Repr

/-- How a task ends. -/
inductive TaskOutcome where
  | published
  | retry
  | deadLettered
  | failed (failure : OutboxError)
  | panicked
deriving DecidableEq, Repr

/-- The error that the handle of a task gives to the call. -/
def TaskOutcome.failure? : TaskOutcome → Option DispatchError
  | .published => none
  | .retry => none
  | .deadLettered => none
  | .failed failure => some (.store failure)
  | .panicked => some .dispatcherTaskFailed

/-- A task that has been spawned, with the outcome that it has or will have. -/
structure TaskHandle where
  outcome : TaskOutcome
  finished : Bool
deriving DecidableEq, Repr

def TaskHandle.finish (task : TaskHandle) : TaskHandle :=
  { task with finished := true }

/-- What the claim of a call answers. -/
inductive ClaimAnswer where
  | failed (failure : OutboxError)
  | claimed (outcomes : List TaskOutcome)
deriving DecidableEq, Repr

/-- A call: the events without a task, the handles, the number of handles that
have been awaited, and the result once it has returned. -/
structure DispatchCall where
  queue : List TaskOutcome
  handles : List TaskHandle
  awaited : Nat
  result : Option (Except DispatchError Nat)

namespace DispatchCall

def ofAnswer : ClaimAnswer → DispatchCall
  | .failed failure => ⟨[], [], 0, some (.error (.store failure))⟩
  | .claimed outcomes => ⟨outcomes, [], 0, none⟩

/-- Spawn the task of the next event. -/
def spawn (call : DispatchCall) : DispatchCall :=
  match call.queue with
  | [] => call
  | outcome :: rest =>
      { call with queue := rest, handles := call.handles ++ [⟨outcome, false⟩] }

/-- Await the next handle, once every task is spawned. -/
def awaitNext (call : DispatchCall) : DispatchCall :=
  if call.queue ≠ [] ∨ call.result.isSome then
    call
  else
    match call.handles[call.awaited]? with
    | none => { call with result := some (.ok call.handles.length) }
    | some task =>
        if task.finished then
          match task.outcome.failure? with
          | none => { call with awaited := call.awaited + 1 }
          | some failure => { call with result := some (.error failure) }
        else
          call

/-- A task finishes. -/
def finish (index : Nat) (call : DispatchCall) : DispatchCall :=
  { call with handles := call.handles.modify index TaskHandle.finish }

/-- Every task that the call has spawned has finished. -/
def Idle (call : DispatchCall) : Prop :=
  ∀ task ∈ call.handles, task.finished = true

/-- The outcomes of the whole batch. -/
def outcomes (call : DispatchCall) : List TaskOutcome :=
  call.handles.map TaskHandle.outcome ++ call.queue

end DispatchCall

/-- A dispatcher with the claims that are still to be made, and its calls, the
last one first. -/
structure DispatcherCalls where
  permits : Nat
  claims : List ClaimAnswer
  calls : List DispatchCall

namespace DispatcherCalls

/-- The dispatcher before its first call. -/
def start (dispatcher : Dispatcher) (claims : List ClaimAnswer) :
    DispatcherCalls := ⟨dispatcher.permits, claims, []⟩

/-- The permits that tasks hold. -/
def held (system : DispatcherCalls) : Nat :=
  (system.calls.flatMap DispatchCall.handles).countP fun task => !task.finished

/-- What is done next: by the caller, by the call that has not returned, or by
a task of a call. -/
inductive Move where
  | begins
  | spawns
  | awaits
  | finishes (call task : Nat)
deriving DecidableEq, Repr

/-- A call begins when the call before it has returned. -/
def step (system : DispatcherCalls) : Move → DispatcherCalls
  | .begins =>
      match system.claims with
      | [] => system
      | answer :: rest =>
          if system.calls.head?.all fun call => call.result.isSome then
            { system with
              claims := rest
              calls := .ofAnswer answer :: system.calls }
          else
            system
  | .spawns =>
      if system.held < system.permits then
        { system with calls := system.calls.modifyHead DispatchCall.spawn }
      else
        system
  | .awaits =>
      { system with calls := system.calls.modifyHead DispatchCall.awaitNext }
  | .finishes call task =>
      { system with
        calls := system.calls.modify call (DispatchCall.finish task) }

def run (system : DispatcherCalls) (moves : List Move) : DispatcherCalls :=
  moves.foldl step system

@[simp]
theorem run_nil (system : DispatcherCalls) : system.run [] = system := rfl

@[simp]
theorem run_cons (system : DispatcherCalls) (move : Move)
    (moves : List Move) :
    system.run (move :: moves) = (system.step move).run moves := rfl

private theorem run_append (system : DispatcherCalls) (first rest : List Move) :
    system.run (first ++ rest) = (system.run first).run rest :=
  List.foldl_append

end DispatcherCalls

/-- No task but the last one fails. -/
def OnlyLastFails (outcomes : List TaskOutcome) : Prop :=
  ∀ outcome ∈ outcomes.dropLast, outcome.failure? = none

/-- If anything is claimed, no task but the last one fails. -/
def ClaimAnswer.OnlyLastFails : ClaimAnswer → Prop
  | .failed _ => True
  | .claimed outcomes => PlatformEvents.OnlyLastFails outcomes

/-- Every call that has returned has no task left, and while a call is made no
task of an earlier call runs. -/
structure DispatcherCalls.Accounted (system : DispatcherCalls) : Prop where
  returned : ∀ call ∈ system.calls, call.result.isSome → call.Idle
  earlier : ∀ call ∈ system.calls.tail, call.Idle

namespace DispatchCall

/-- What a call keeps whose batch has no failure before its last task. -/
structure Sound (call : DispatchCall) : Prop where
  onlyLast : OnlyLastFails call.outcomes
  within : call.awaited ≤ call.handles.length
  awaited : ∀ task ∈ call.handles.take call.awaited, task.finished = true
  returned : call.result.isSome → call.queue = [] ∧ call.Idle

private theorem sound_ofAnswer
    {answer : ClaimAnswer} (onlyLast : answer.OnlyLastFails) :
    (ofAnswer answer).Sound := by
  cases answer with
  | failed failure =>
      exact
        { onlyLast := by simp [OnlyLastFails, ofAnswer, outcomes]
          within := Nat.le_refl 0
          awaited := by simp [ofAnswer]
          returned := fun _ => ⟨rfl, by simp [Idle, ofAnswer]⟩ }
  | claimed batch =>
      exact
        { onlyLast := onlyLast
          within := Nat.le_refl 0
          awaited := by simp [ofAnswer]
          returned := fun isReturned => absurd isReturned (by simp [ofAnswer]) }

private theorem outcomes_spawn (call : DispatchCall) :
    call.spawn.outcomes = call.outcomes := by
  rw [spawn]
  split
  · rfl
  · rename_i outcome rest isNext
    rw [outcomes, outcomes, isNext, List.map_append, List.append_assoc]
    rfl

/-- What awaiting does: nothing, or the call returns that all is well, or it
goes on behind a task that has finished well, or it returns a failure. -/
theorem awaitNext_cases (call : DispatchCall) :
    call.awaitNext = call ∨
    call.queue = [] ∧ call.handles.length ≤ call.awaited ∧
      call.awaitNext =
        { call with result := some (.ok call.handles.length) } ∨
    call.queue = [] ∧ ∃ task, call.handles[call.awaited]? = some task ∧
      task.finished = true ∧
        (task.outcome.failure? = none ∧
          call.awaitNext = { call with awaited := call.awaited + 1 } ∨
        ∃ failure, task.outcome.failure? = some failure ∧
          call.awaitNext = { call with result := some (.error failure) }) := by
  by_cases blocked : call.queue ≠ [] ∨ call.result.isSome
  · exact Or.inl (by rw [awaitNext, if_pos blocked])
  · have spawned : call.queue = [] := not_not.mp (not_or.mp blocked).1
    cases next : call.handles[call.awaited]? with
    | none =>
        refine Or.inr (Or.inl ⟨spawned, List.getElem?_eq_none_iff.mp next, ?_⟩)
        rw [awaitNext, if_neg blocked, next]
    | some task =>
        cases isFinished : task.finished with
        | false =>
            left
            rw [awaitNext, if_neg blocked, next]
            simp [isFinished]
        | true =>
            refine Or.inr (Or.inr ⟨spawned, task, rfl, isFinished, ?_⟩)
            cases failing : task.outcome.failure? with
            | none =>
                refine Or.inl ⟨rfl, ?_⟩
                rw [awaitNext, if_neg blocked, next]
                simp [isFinished, failing]
            | some failure =>
                refine Or.inr ⟨failure, rfl, ?_⟩
                rw [awaitNext, if_neg blocked, next]
                simp [isFinished, failing]

private theorem forall_mem_modify {α : Type} {holds : α → Prop} {change : α → α}
    (kept : ∀ element, holds element → holds (change element)) :
    ∀ {elements : List α} {index : Nat},
      (∀ element ∈ elements, holds element) →
      ∀ element ∈ elements.modify index change, holds element := by
  intro elements
  induction elements with
  | nil => simp
  | cons first rest inductionHypothesis =>
      intro index all
      obtain ⟨holdsFirst, holdsRest⟩ := List.forall_mem_cons.mp all
      cases index with
      | zero =>
          rw [List.modify_zero_cons, List.forall_mem_cons]
          exact ⟨kept first holdsFirst, holdsRest⟩
      | succ index =>
          rw [List.modify_succ_cons, List.forall_mem_cons]
          exact ⟨holdsFirst, inductionHypothesis holdsRest⟩

private theorem outcomes_finish (index : Nat) (call : DispatchCall) :
    (call.finish index).outcomes = call.outcomes := by
  have same : ∀ (handles : List TaskHandle) (index : Nat),
      (handles.modify index TaskHandle.finish).map TaskHandle.outcome =
        handles.map TaskHandle.outcome := by
    intro handles
    induction handles with
    | nil => simp
    | cons first rest inductionHypothesis =>
        intro index
        cases index with
        | zero => rfl
        | succ index =>
            rw [List.modify_succ_cons, List.map_cons, inductionHypothesis,
              List.map_cons]
  rw [outcomes, finish, same]
  rfl

/-- Finishing a task keeps others finished. -/
theorem finished_modify {handles : List TaskHandle} (index : Nat)
    (finished : ∀ task ∈ handles, task.finished = true) (task : TaskHandle)
    (member : task ∈ handles.modify index TaskHandle.finish) :
    task.finished = true :=
  @forall_mem_modify _ (fun task => task.finished = true) TaskHandle.finish
    (fun _ _ => rfl) handles index finished task member

private theorem Idle.finish
    {call : DispatchCall} (idle : call.Idle) (index : Nat) :
    (call.finish index).Idle := finished_modify index idle

private theorem Sound.spawn {call : DispatchCall} (sound : call.Sound) :
    call.spawn.Sound := by
  cases isNext : call.queue with
  | nil =>
      have same : call.spawn = call := by rw [DispatchCall.spawn, isNext]
      rw [same]
      exact sound
  | cons outcome rest =>
      have spawned : call.spawn =
          { call with
            queue := rest
            handles := call.handles ++ [⟨outcome, false⟩] } := by
        rw [DispatchCall.spawn, isNext]
      have onlyLast := sound.onlyLast
      rw [← outcomes_spawn] at onlyLast
      rw [spawned] at onlyLast ⊢
      exact
        { onlyLast
          within := by
            rw [List.length_append]
            exact sound.within.trans (Nat.le_add_right ..)
          awaited := by
            rw [List.take_append_of_le_length sound.within]
            exact sound.awaited
          returned := by
            intro isReturned
            have isEmpty := (sound.returned isReturned).1
            rw [isNext] at isEmpty
            cases isEmpty }

private theorem Sound.finish {call : DispatchCall} (sound : call.Sound)
    (index : Nat) : (call.finish index).Sound where
  onlyLast := by
    rw [outcomes_finish]
    exact sound.onlyLast
  within := by
    rw [DispatchCall.finish, List.length_modify]
    exact sound.within
  awaited := by
    rw [DispatchCall.finish, List.take_modify]
    exact finished_modify index sound.awaited
  returned := by
    intro isReturned
    have before := sound.returned isReturned
    exact ⟨before.1, before.2.finish index⟩

/-- A task that fails in a sound call is the last one. -/
theorem Sound.length_le {call : DispatchCall} (sound : call.Sound)
    {task : TaskHandle} {index : Nat} {failure : DispatchError}
    (isTask : call.handles[index]? = some task)
    (fails : task.outcome.failure? = some failure) :
    call.handles.length ≤ index + 1 := by
  by_contra early
  have inFront : task.outcome ∈ call.outcomes.dropLast := by
    rw [List.mem_iff_getElem?]
    refine ⟨index, ?_⟩
    have before : index < call.outcomes.length - 1 := by
      rw [outcomes, List.length_append, List.length_map]
      omega
    rw [List.getElem?_dropLast, if_pos before, outcomes,
      List.getElem?_append_left (by rw [List.length_map]; omega),
      List.getElem?_map, isTask]
    rfl
  rw [sound.onlyLast _ inFront] at fails
  cases fails

/-- A sound call returns when all its tasks have finished. -/
theorem Sound.awaitNext {call : DispatchCall} (sound : call.Sound) :
    call.awaitNext.Sound := by
  have onlyLast := sound.onlyLast
  rcases call.awaitNext_cases with same | ⟨spawned, all, isOk⟩ |
    ⟨spawned, task, next, finished, ⟨_, goesOn⟩ | ⟨failure, fails, returns⟩⟩
  · rw [same]
    exact sound
  · have idle : call.Idle := by
      have awaited := sound.awaited
      rw [List.take_of_length_le all] at awaited
      exact awaited
    rw [isOk]
    exact
      { onlyLast
        within := sound.within
        awaited := sound.awaited
        returned := fun _ => ⟨spawned, idle⟩ }
  · have upTo : call.handles.take (call.awaited + 1) =
        call.handles.take call.awaited ++ [task] := by
      rw [List.take_add_one, next, Option.toList_some]
    have bound := (List.getElem?_eq_some_iff.mp next).1
    rw [goesOn]
    exact
      { onlyLast
        within := bound
        awaited := by
          rw [upTo, List.forall_mem_append]
          exact ⟨sound.awaited, List.forall_mem_singleton.mpr finished⟩
        returned := sound.returned }
  · have idle : call.Idle := by
      have upTo : call.handles =
          call.handles.take call.awaited ++ [task] := by
        have whole := List.take_of_length_le (sound.length_le next fails)
        rw [List.take_add_one, next, Option.toList_some] at whole
        exact whole.symm
      rw [Idle, upTo, List.forall_mem_append]
      exact ⟨sound.awaited, List.forall_mem_singleton.mpr finished⟩
    rw [returns]
    exact
      { onlyLast
        within := sound.within
        awaited := sound.awaited
        returned := fun _ => ⟨spawned, idle⟩ }

end DispatchCall

namespace DispatcherCalls

/-! ## Runs -/

/-- What a dispatcher keeps if no batch has a failure before its last task. -/
structure Sound (system : DispatcherCalls) : Prop where
  claims : ∀ answer ∈ system.claims, answer.OnlyLastFails
  calls : ∀ call ∈ system.calls, call.Sound
  earlier : ∀ call ∈ system.calls.tail, call.result.isSome

private theorem Sound.accounted
    {system : DispatcherCalls} (sound : system.Sound) :
    system.Accounted where
  returned := by
    intro call member isReturned
    exact ((sound.calls call member).returned isReturned).2
  earlier := by
    intro call member
    have isReturned := sound.earlier call member
    exact ((sound.calls call (List.mem_of_mem_tail member)).returned
      isReturned).2

private theorem Sound.modifyHead
    {system : DispatcherCalls} (sound : system.Sound)
    {change : DispatchCall → DispatchCall}
    (kept : ∀ call, call.Sound → (change call).Sound) :
    ({ system with calls := system.calls.modifyHead change } :
      DispatcherCalls).Sound where
  claims := sound.claims
  calls := by
    rw [List.modifyHead_eq_modify_zero]
    exact DispatchCall.forall_mem_modify kept sound.calls
  earlier := by
    rw [List.tail_modifyHead]
    exact sound.earlier

/-- Every move keeps a dispatcher sound. -/
theorem Sound.step {system : DispatcherCalls} (sound : system.Sound)
    (move : Move) : (system.step move).Sound := by
  cases move with
  | begins =>
      rw [DispatcherCalls.step]
      split
      · exact sound
      · rename_i answer rest isNext
        split
        · rename_i idle
          have claims := sound.claims
          rw [isNext, List.forall_mem_cons] at claims
          exact
            { claims := claims.2
              calls := List.forall_mem_cons.mpr
                ⟨DispatchCall.sound_ofAnswer claims.1, sound.calls⟩
              earlier := by
                intro call member
                cases shape : system.calls with
                | nil =>
                    rw [List.tail_cons, shape] at member
                    cases member
                | cons last before =>
                    rw [List.tail_cons, shape, List.mem_cons] at member
                    rcases member with rfl | inBefore
                    · rw [shape] at idle
                      exact idle
                    · apply sound.earlier
                      rw [shape]
                      exact inBefore }
        · exact sound
  | spawns =>
      rw [DispatcherCalls.step]
      split
      · exact sound.modifyHead fun _ before => before.spawn
      · exact sound
  | awaits => exact sound.modifyHead fun _ before => before.awaitNext
  | finishes call task =>
      rw [DispatcherCalls.step]
      exact
        { claims := sound.claims
          calls := DispatchCall.forall_mem_modify
            (fun _ before => before.finish task) sound.calls
          earlier := by
            have earlier := sound.earlier
            cases shape : system.calls with
            | nil => simp
            | cons last before =>
                rw [shape, List.tail_cons] at earlier
                cases call with
                | zero =>
                    rw [List.modify_zero_cons, List.tail_cons]
                    exact earlier
                | succ call =>
                    rw [List.modify_succ_cons, List.tail_cons]
                    have kept : ∀ other : DispatchCall,
                        other.result.isSome = true →
                          (other.finish task).result.isSome = true := by
                      intro other isReturned
                      exact isReturned
                    exact DispatchCall.forall_mem_modify kept earlier }

private theorem Sound.run {system : DispatcherCalls} (sound : system.Sound) :
    ∀ moves : List Move, (system.run moves).Sound := by
  intro moves
  induction moves generalizing system with
  | nil => exact sound
  | cons move rest inductionHypothesis =>
      exact inductionHypothesis (sound.step move)

private theorem sound_start
    (dispatcher : Dispatcher) {claims : List ClaimAnswer}
    (onlyLast : ∀ answer ∈ claims, answer.OnlyLastFails) :
    (start dispatcher claims).Sound where
  claims := onlyLast
  calls := by simp [start]
  earlier := by simp [start]

section Schedules

variable {permits : Nat} {claims : List ClaimAnswer}
  {calls : List DispatchCall}

private theorem held_eq_zero (idle : ∀ call ∈ calls, call.Idle) :
    (⟨permits, claims, calls⟩ : DispatcherCalls).held = 0 := by
  rw [held, List.countP_eq_zero]
  intro task member
  obtain ⟨call, isCall, isTask⟩ := List.mem_flatMap.mp member
  simp [idle call isCall task isTask]

private theorem step_spawns (free : 0 < permits) {call : DispatchCall}
    (idle : call.Idle) (others : ∀ call ∈ calls, call.Idle) :
    (⟨permits, claims, call :: calls⟩ : DispatcherCalls).step .spawns =
      ⟨permits, claims, call.spawn :: calls⟩ := by
  have none : (⟨permits, claims, call :: calls⟩ : DispatcherCalls).held = 0 :=
    held_eq_zero (List.forall_mem_cons.mpr ⟨idle, others⟩)
  rw [step, if_pos (by rw [none]; exact free)]
  rfl

/-- The latest of its tasks finishes. -/
theorem modify_finish (done : List TaskHandle) (outcome : TaskOutcome) :
    List.modify (done ++ [⟨outcome, false⟩]) done.length TaskHandle.finish =
      done ++ [⟨outcome, true⟩] := by
  induction done with
  | nil => rfl
  | cons first rest inductionHypothesis =>
      rw [List.cons_append, List.length_cons, List.modify_succ_cons,
        inductionHypothesis, List.cons_append]

/-- Each task finishes before the next one is spawned. -/
def spawnMoves : Nat → List TaskOutcome → List Move
  | _, [] => []
  | index, _ :: rest =>
      .spawns :: .finishes 0 index :: spawnMoves (index + 1) rest

private theorem run_spawnMoves (free : 0 < permits)
    (others : ∀ call ∈ calls, call.Idle) (rest : List TaskOutcome) :
    ∀ (front : List TaskOutcome) (done : List TaskHandle),
      (∀ task ∈ done, task.finished = true) →
      (⟨permits, claims, ⟨front ++ rest, done, 0, none⟩ :: calls⟩ :
          DispatcherCalls).run (spawnMoves done.length front) =
        ⟨permits, claims, ⟨rest, done ++ front.map fun outcome =>
          ⟨outcome, true⟩, 0, none⟩ :: calls⟩ := by
  intro front
  induction front with
  | nil =>
      intro done _
      rw [spawnMoves, run_nil, List.nil_append, List.map_nil, List.append_nil]
  | cons outcome front inductionHypothesis =>
      intro done finished
      have spawned : (⟨permits, claims,
          ⟨outcome :: front ++ rest, done, 0, none⟩ :: calls⟩ :
            DispatcherCalls).step .spawns =
          ⟨permits, claims, ⟨front ++ rest, done ++ [⟨outcome, false⟩], 0,
            none⟩ :: calls⟩ := step_spawns free finished others
      have ends : (⟨permits, claims, ⟨front ++ rest,
          done ++ [⟨outcome, false⟩], 0, none⟩ :: calls⟩ :
            DispatcherCalls).step (.finishes 0 done.length) =
          ⟨permits, claims, ⟨front ++ rest, done ++ [⟨outcome, true⟩], 0,
            none⟩ :: calls⟩ := by
        rw [step, List.modify_zero_cons, DispatchCall.finish, modify_finish]
      have finishedOne : ∀ task ∈ done ++ [⟨outcome, true⟩],
          task.finished = true := by
        rw [List.forall_mem_append]
        exact ⟨finished, List.forall_mem_singleton.mpr rfl⟩
      have later := inductionHypothesis (done ++ [⟨outcome, true⟩]) finishedOne
      rw [List.length_append, List.length_singleton] at later
      rw [spawnMoves, run_cons, spawned, run_cons, ends, later, List.map_cons,
        List.append_assoc, List.singleton_append]

/-- The handles of tasks that have finished well are awaited. -/
theorem run_awaits (post : List TaskHandle) :
    ∀ pre done : List TaskHandle,
      (∀ task ∈ pre, task.finished = true ∧ task.outcome.failure? = none) →
      (⟨permits, claims,
          ⟨[], done ++ (pre ++ post), done.length, none⟩ :: calls⟩ :
          DispatcherCalls).run (List.replicate pre.length .awaits) =
        ⟨permits, claims, ⟨[], done ++ (pre ++ post),
          done.length + pre.length, none⟩ :: calls⟩ := by
  intro pre
  induction pre with
  | nil =>
      intro done _
      rfl
  | cons task pre inductionHypothesis =>
      intro done well
      obtain ⟨⟨finished, succeeds⟩, wellRest⟩ := List.forall_mem_cons.mp well
      have awaited : (⟨permits, claims, ⟨[], done ++ (task :: pre ++ post),
          done.length, none⟩ :: calls⟩ : DispatcherCalls).step .awaits =
          ⟨permits, claims, ⟨[], done ++ (task :: pre ++ post),
            done.length + 1, none⟩ :: calls⟩ := by
        simp [step, DispatchCall.awaitNext, finished, succeeds]
      have later := inductionHypothesis (done ++ [task]) wellRest
      rw [List.length_append, List.length_singleton, List.append_assoc,
        List.singleton_append, ← List.cons_append] at later
      rw [List.length_cons, List.replicate_succ, run_cons, awaited, later,
        Nat.add_right_comm, Nat.add_assoc]

/-- A failure is the first one, or there is none. -/
theorem exists_first_failure (outcomes : List TaskOutcome) :
    (∀ outcome ∈ outcomes, outcome.failure? = none) ∨
      ∃ before failing after, outcomes = before ++ failing :: after ∧
        (∀ outcome ∈ before, outcome.failure? = none) ∧
        failing.failure?.isSome := by
  induction outcomes with
  | nil => exact Or.inl (by simp)
  | cons first rest inductionHypothesis =>
      by_cases fails : first.failure?.isSome
      · exact Or.inr ⟨[], first, rest, rfl, by simp, fails⟩
      · have succeeds : first.failure? = none := by simpa using fails
        rcases inductionHypothesis with
          all | ⟨before, failing, after, split, well, isFailing⟩
        · exact Or.inl (List.forall_mem_cons.mpr ⟨succeeds, all⟩)
        · refine Or.inr ⟨first :: before, failing, after, ?_, ?_, isFailing⟩
          · rw [split, List.cons_append]
          · exact List.forall_mem_cons.mpr ⟨succeeds, well⟩

/-- The dispatcher may be called, and no task is left. -/
structure Ready (calls : List DispatchCall) : Prop where
  idle : ∀ call ∈ calls, call.Idle
  returned : calls.head?.all (fun call => call.result.isSome) = true

private theorem step_begins {answer : ClaimAnswer} (ready : Ready calls) :
    (⟨permits, answer :: claims, calls⟩ : DispatcherCalls).step .begins =
      ⟨permits, claims, .ofAnswer answer :: calls⟩ := by
  rw [step]
  exact if_pos ready.returned

/-- Tasks that have all been awaited, each with success. -/
theorem run_awaits_all {handles : List TaskHandle}
    (well : ∀ task ∈ handles,
      task.finished = true ∧ task.outcome.failure? = none) :
    (⟨permits, claims, ⟨[], handles, 0, none⟩ :: calls⟩ :
        DispatcherCalls).run (List.replicate handles.length .awaits ++
          [.awaits]) =
      ⟨permits, claims, ⟨[], handles, handles.length,
        some (.ok handles.length)⟩ :: calls⟩ := by
  have awaited := @run_awaits permits claims calls [] handles [] well
  rw [List.nil_append, List.append_nil, List.length_nil, Nat.zero_add] at awaited
  rw [run_append, awaited]
  simp [step, DispatchCall.awaitNext]

/-- The call returns at the first failure that it awaits. -/
theorem run_awaits_failure {before after : List TaskHandle}
    {task : TaskHandle} {failure : DispatchError}
    (well : ∀ task ∈ before,
      task.finished = true ∧ task.outcome.failure? = none)
    (finished : task.finished = true)
    (fails : task.outcome.failure? = some failure) :
    (⟨permits, claims, ⟨[], before ++ task :: after, 0, none⟩ :: calls⟩ :
        DispatcherCalls).run (List.replicate before.length .awaits ++
          [.awaits]) =
      ⟨permits, claims, ⟨[], before ++ task :: after, before.length,
        some (.error failure)⟩ :: calls⟩ := by
  have awaited := @run_awaits permits claims calls (task :: after) before []
    well
  rw [List.nil_append, List.length_nil, Nat.zero_add] at awaited
  rw [run_append, awaited]
  simp [step, DispatchCall.awaitNext, finished, fails]

/-- The handles of tasks that have finished. -/
def handlesOf (outcomes : List TaskOutcome) : List TaskHandle :=
  outcomes.map fun outcome => ⟨outcome, true⟩

private theorem finished_handlesOf (outcomes : List TaskOutcome) :
    ∀ task ∈ handlesOf outcomes, task.finished = true := by
  intro task member
  obtain ⟨outcome, _, rfl⟩ := List.mem_map.mp member
  rfl

private theorem well_handlesOf {outcomes : List TaskOutcome}
    (well : ∀ outcome ∈ outcomes, outcome.failure? = none) :
    ∀ task ∈ handlesOf outcomes,
      task.finished = true ∧ task.outcome.failure? = none := by
  intro task member
  obtain ⟨outcome, inOutcomes, rfl⟩ := List.mem_map.mp member
  exact ⟨rfl, well outcome inOutcomes⟩

private theorem handlesOf_split (before after : List TaskOutcome)
    (outcome : TaskOutcome) :
    handlesOf (before ++ outcome :: after) =
      handlesOf before ++ ⟨outcome, true⟩ :: handlesOf after := by
  rw [handlesOf, List.map_append, List.map_cons]
  rfl

/-- A call whose tasks have all finished can return. -/
theorem exists_run_awaits (outcomes : List TaskOutcome) :
    ∃ moves awaited result,
      (⟨permits, claims, ⟨[], handlesOf outcomes, 0, none⟩ :: calls⟩ :
          DispatcherCalls).run moves =
        ⟨permits, claims, ⟨[], handlesOf outcomes, awaited, some result⟩ ::
          calls⟩ := by
  rcases exists_first_failure outcomes with
    all | ⟨before, failing, after, rfl, well, fails⟩
  · exact ⟨_, _, _, run_awaits_all (well_handlesOf all)⟩
  · obtain ⟨failure, isFailure⟩ := Option.isSome_iff_exists.mp fails
    rw [handlesOf_split]
    exact ⟨_, _, _, run_awaits_failure (well_handlesOf well) rfl isFailure⟩

/-- A call begins, and all the events in front get their tasks. -/
theorem run_begins (free : 0 < permits) (ready : Ready calls)
    (front rest : List TaskOutcome) (moves : List Move) :
    (⟨permits, .claimed (front ++ rest) :: claims, calls⟩ :
        DispatcherCalls).run (.begins :: (spawnMoves 0 front ++ moves)) =
      (⟨permits, claims, ⟨rest, handlesOf front, 0, none⟩ :: calls⟩ :
        DispatcherCalls).run moves := by
  have spawned := @run_spawnMoves permits claims calls free ready.idle rest
    front [] (by simp)
  rw [List.length_nil, List.nil_append] at spawned
  rw [run_cons, step_begins ready, run_append]
  exact congrArg (DispatcherCalls.run · moves) spawned

/-- Any call can return with all its tasks finished. -/
theorem exists_run_ready (free : 0 < permits) (ready : Ready calls)
    (answer : ClaimAnswer) :
    ∃ moves reached, Ready reached ∧
      (⟨permits, answer :: claims, calls⟩ : DispatcherCalls).run moves =
        ⟨permits, claims, reached⟩ := by
  cases answer with
  | failed failure =>
      refine ⟨[.begins], .ofAnswer (.failed failure) :: calls, ?_, ?_⟩
      · exact
          { idle := List.forall_mem_cons.mpr
              ⟨by simp [DispatchCall.Idle, DispatchCall.ofAnswer], ready.idle⟩
            returned := rfl }
      · rw [run_cons, step_begins ready, run_nil]
  | claimed outcomes =>
      obtain ⟨awaits, awaited, result, returned⟩ :=
        @exists_run_awaits permits claims calls outcomes
      refine ⟨.begins :: (spawnMoves 0 outcomes ++ awaits),
        ⟨[], handlesOf outcomes, awaited, some result⟩ :: calls, ?_, ?_⟩
      · exact
          { idle := List.forall_mem_cons.mpr
              ⟨finished_handlesOf outcomes, ready.idle⟩
            returned := rfl }
      · have begun := @run_begins permits claims calls free ready outcomes []
          awaits
        rw [List.append_nil] at begun
        rw [begun, returned]

/-- If a task before the last one fails, the call can return while the last
task runs. -/
theorem exists_run_outlived (free : 0 < permits) (ready : Ready calls)
    {outcomes : List TaskOutcome} (early : ¬OnlyLastFails outcomes) :
    ∃ moves, ¬((⟨permits, .claimed outcomes :: claims, calls⟩ :
      DispatcherCalls).run moves).Accounted := by
  have nonempty : outcomes ≠ [] := by
    rintro rfl
    exact early (by simp [OnlyLastFails])
  have split := List.dropLast_concat_getLast nonempty
  rcases exists_first_failure outcomes.dropLast with
    all | ⟨before, failing, after, isFront, well, fails⟩
  · exact absurd all early
  · obtain ⟨failure, isFailure⟩ := Option.isSome_iff_exists.mp fails
    have begun := @run_begins permits claims calls free ready outcomes.dropLast
      [outcomes.getLast nonempty]
    have spawned : (⟨permits, claims, ⟨[outcomes.getLast nonempty],
        handlesOf outcomes.dropLast, 0, none⟩ :: calls⟩ :
          DispatcherCalls).step .spawns =
        ⟨permits, claims, ⟨[], handlesOf outcomes.dropLast ++
          [⟨outcomes.getLast nonempty, false⟩], 0, none⟩ :: calls⟩ :=
      step_spawns free (finished_handlesOf _) ready.idle
    rw [split] at begun
    refine ⟨.begins :: (spawnMoves 0 outcomes.dropLast ++ .spawns ::
      (List.replicate (handlesOf before).length .awaits ++ [.awaits])), ?_⟩
    rw [begun, run_cons, spawned, isFront, handlesOf_split, List.append_assoc,
      List.cons_append, run_awaits_failure (well_handlesOf well) rfl isFailure]
    intro accounted
    have idle := accounted.returned _ List.mem_cons_self rfl
    have finished := idle ⟨outcomes.getLast nonempty, false⟩ (by simp)
    cases finished

/-- Some batch with a failure before its last task leads to a run in which a
task outlives its call. -/
theorem exists_run_not_accounted (free : 0 < permits) (ready : Ready calls)
    (early : ∃ answer ∈ claims, ¬answer.OnlyLastFails) :
    ∃ moves, ¬((⟨permits, claims, calls⟩ :
      DispatcherCalls).run moves).Accounted := by
  induction claims generalizing calls with
  | nil =>
      obtain ⟨_, member, _⟩ := early
      cases member
  | cons answer rest inductionHypothesis =>
      by_cases onlyLast : answer.OnlyLastFails
      · have later : ∃ answer ∈ rest, ¬answer.OnlyLastFails := by
          obtain ⟨other, member, fails⟩ := early
          rcases List.mem_cons.mp member with rfl | inRest
          · exact absurd onlyLast fails
          · exact ⟨other, inRest, fails⟩
        obtain ⟨first, reached, readyAgain, ran⟩ :=
          @exists_run_ready permits rest calls free ready answer
        obtain ⟨moves, outlived⟩ := inductionHypothesis readyAgain later
        refine ⟨first ++ moves, ?_⟩
        rw [run_append, ran]
        exact outlived
      · cases answer with
        | failed failure => exact absurd trivial onlyLast
        | claimed outcomes => exact exists_run_outlived free ready onlyLast

end Schedules

end DispatcherCalls

private theorem Dispatcher.permits_pos {workerId : String} {maxAttempts : Int}
    {concurrency : Nat} {dispatcher : Dispatcher}
    (isNew : Dispatcher.new workerId maxAttempts concurrency =
      some dispatcher) : 0 < dispatcher.permits := by
  rw [Dispatcher.new] at isNew
  split at isNew
  · cases isNew
  · rename_i valid
    cases isNew
    simp only [Bool.or_eq_true, decide_eq_true_eq, not_or] at valid
    have positive : concurrency ≠ 0 := valid.2
    rw [Nat.lt_min]
    omega

/-- In every run of calls whose batches have no failure before their last task,
each call that has returned has no task left; and only then: otherwise there is
a run in which a task outlives its call. -/
theorem dispatchOnce_accounted_iff {workerId : String} {maxAttempts : Int}
    {concurrency : Nat} {dispatcher : Dispatcher}
    (isNew : Dispatcher.new workerId maxAttempts concurrency =
      some dispatcher) (claims : List ClaimAnswer) :
    (∀ moves, ((DispatcherCalls.start dispatcher claims).run
        moves).Accounted) ↔
      ∀ answer ∈ claims, answer.OnlyLastFails := by
  constructor
  · intro accounted
    by_contra early
    have positive := Dispatcher.permits_pos isNew
    obtain ⟨moves, outlived⟩ := DispatcherCalls.exists_run_not_accounted
      positive ⟨List.forall_mem_nil _, rfl⟩ (by simpa using early)
    exact outlived (accounted moves)
  · intro onlyLast moves
    have sound := DispatcherCalls.sound_start dispatcher onlyLast
    exact (sound.run moves).accounted

/-- The only failure of a batch is its last task. -/
theorem dispatchOnce_accounted_last :
    ((DispatcherCalls.start ⟨"worker-a", 5, 4⟩
      [.claimed [.published, .panicked]]).run
        [.begins, .spawns, .spawns, .finishes 0 1, .awaits, .finishes 0 0,
          .awaits, .awaits]).Accounted := by
  have isNew : Dispatcher.new "worker-a" 5 4 = some ⟨"worker-a", 5, 4⟩ := by
    decide
  apply (dispatchOnce_accounted_iff isNew
    [.claimed [.published, .panicked]]).mpr
  intro answer member
  rw [List.mem_singleton] at member
  subst member
  intro outcome inFront
  rw [List.mem_singleton.mp inFront]
  rfl

/-- The first of two tasks panics; the call returns while the second one runs,
and it still runs when the next call begins. -/
theorem not_dispatchOnce_accounted :
    ¬((DispatcherCalls.start ⟨"worker-a", 5, 4⟩
      [.claimed [.panicked, .published], .claimed [.published]]).run
        [.begins, .spawns, .spawns, .finishes 0 0, .awaits,
          .begins]).Accounted := by
  intro accounted
  have idle := accounted.earlier _ List.mem_cons_self
  have finished := idle ⟨.published, false⟩
    (List.mem_cons_of_mem _ List.mem_cons_self)
  cases finished

end NetworkManager.PlatformEvents
