import NetworkManager.Transaction.Guards

/-!
# Tasks that take turns

Tasks run programs against one database, a statement at a time and in any
order.  A statement sees the committed state with the writes of its own task on
top.  Nothing here makes a statement wait for a lock, so what holds of every
run holds of those that locks allow.  A task that is never taken up again has
crashed or is still waiting.
-/

namespace NetworkManager.Transaction

variable {D : Database} {ε : Type}

/-- A call under way: what is left of its program, the writes that are not
committed yet, and the states that its statements have seen, the last one
first. -/
structure Task (client : Client D ε) where
  call : client.Call
  rest : Program D ε (client.Result call)
  pending : List D.Write
  seen : List D.State

/-- A commit of a task: the writes, and what the task had seen. -/
structure TaskCommit (client : Client D ε) where
  call : client.Call
  seen : List D.State
  writes : List D.Write

/-- The commits are in their order, the last one first. -/
structure Tasks (client : Client D ε) where
  committed : D.State
  tasks : List (Task client)
  commits : List (TaskCommit client)

inductive TaskAction (client : Client D ε) where
  | start (call : client.Call)
  /-- The next statement or commit of a task, which may fail. -/
  | proceed (index : Nat) (fault : Option D.Fault)

variable {client : Client D ε}

/-- The task has ended with an error, and its transaction is rolled back. -/
def Task.fail (task : Task client) (failure : ε) : Task client :=
  { task with rest := .done (.error failure), pending := [] }

namespace Tasks

def initial (client : Client D ε) (state : D.State) : Tasks client :=
  ⟨state, [], []⟩

/-- What the next statement of a task sees. -/
def view (system : Tasks client) (task : Task client) : D.State :=
  D.applyAll task.pending system.committed

/-- A task does what its program does next. -/
def proceed (system : Tasks client) (task : Task client)
    (fault : Option D.Fault) : Task client × Tasks client :=
  match task.rest with
  | .done _ => (task, system)
  | .exec query onFault next =>
      match fault with
      | some failed => (task.fail (onFault failed), system)
      | none =>
          match D.exec query (system.view task) with
          | .error failed => (task.fail (onFault failed), system)
          | .ok (reply, writes) =>
              ({ task with
                  rest := next reply
                  pending := task.pending ++ writes
                  seen := system.view task :: task.seen }, system)
  | .commit onFault next =>
      match fault with
      | some failed => (task.fail (onFault failed), system)
      | none =>
          ({ task with rest := next, pending := [] },
            { system with
              committed := system.view task
              commits := ⟨task.call, task.seen, task.pending⟩ ::
                system.commits })

def step (system : Tasks client) : TaskAction client → Tasks client
  | .start call =>
      { system with
        tasks := system.tasks ++ [⟨call, client.program call, [], []⟩] }
  | .proceed index fault =>
      match system.tasks[index]? with
      | none => system
      | some task =>
          let (taken, reached) := system.proceed task fault
          { reached with tasks := system.tasks.set index taken }

def run (system : Tasks client) (actions : List (TaskAction client)) :
    Tasks client :=
  actions.foldl step system

/-- The writes of all commits, in the order in which they were made. -/
def written (system : Tasks client) : List D.Write :=
  (system.commits.reverse.map TaskCommit.writes).flatten

section Guards

variable {allowed : client.Call → List D.State → D.Write → Prop}
  {returns : (call : client.Call) → List D.State → client.Result call → Prop}

/-- The task keeps to the guard of its call. -/
structure Obeys (allowed : client.Call → List D.State → D.Write → Prop)
    (returns : (call : client.Call) → List D.State →
      client.Result call → Prop) (task : Task client) : Prop where
  rest : task.rest.Guarded (allowed task.call) (returns task.call) task.seen
  pending : ∀ write ∈ task.pending, allowed task.call task.seen write

/-- All tasks keep to their guards, and so did all commits. -/
structure Guarded (allowed : client.Call → List D.State → D.Write → Prop)
    (returns : (call : client.Call) → List D.State →
      client.Result call → Prop) (first : D.State) (system : Tasks client) :
    Prop where
  tasks : ∀ task ∈ system.tasks, Obeys allowed returns task
  commits : ∀ commit ∈ system.commits, ∀ write ∈ commit.writes,
    allowed commit.call commit.seen write
  committed : system.committed = D.applyAll system.written first

private theorem Obeys.fail {task : Task client} (failure : ε) :
    Obeys allowed returns (task.fail failure) :=
  ⟨.of_throw failure, nofun⟩

theorem Guarded.initial (first : D.State) :
    (Tasks.initial client first).Guarded allowed returns first :=
  ⟨nofun, nofun, rfl⟩

/-- A task that proceeds keeps to its guard, and so does what it commits. -/
theorem Guarded.proceed {first : D.State} {system : Tasks client}
    {task : Task client}
    (mono : ∀ call view seen write, allowed call seen write →
      allowed call (view :: seen) write)
    (guarded : system.Guarded allowed returns first)
    (obeys : Obeys allowed returns task) (fault : Option D.Fault) :
    Obeys allowed returns (system.proceed task fault).1 ∧
      (system.proceed task fault).2.Guarded allowed returns first := by
  obtain ⟨call, rest, pending, seen⟩ := task
  obtain ⟨guardedRest, guardedPending⟩ := obeys
  cases rest with
  | done outcome => exact ⟨⟨guardedRest, guardedPending⟩, guarded⟩
  | exec query onFault next =>
      cases guardedRest with
      | exec mayWrite later =>
          rw [Tasks.proceed]
          cases fault with
          | some failed => exact ⟨.fail _, guarded⟩
          | none =>
              cases answered : D.exec query (D.applyAll pending
                  system.committed) with
              | error failed =>
                  simp only [view, answered]
                  exact ⟨.fail _, guarded⟩
              | ok answer =>
                  obtain ⟨reply, writes⟩ := answer
                  simp only [view, answered]
                  refine ⟨⟨later _ reply writes answered, ?_⟩, guarded⟩
                  intro write member
                  rcases List.mem_append.mp member with old | new
                  · exact mono _ _ _ _ (guardedPending write old)
                  · exact mayWrite _ reply writes answered write new
  | commit onFault next =>
      cases guardedRest with
      | commit later =>
          rw [Tasks.proceed]
          cases fault with
          | some failed => exact ⟨.fail _, guarded⟩
          | none =>
              refine ⟨⟨later, nofun⟩, guarded.tasks, ?_, ?_⟩
              · intro commit member
                rcases List.mem_cons.mp member with rfl | old
                · exact guardedPending
                · exact guarded.commits commit old
              · simp only [view]
                rw [guarded.committed, ← Database.applyAll_append]
                simp [written]

private theorem Guarded.step {first : D.State} {system : Tasks client}
    (mono : ∀ call view seen write, allowed call seen write →
      allowed call (view :: seen) write)
    (programs : ∀ call,
      (client.program call).Guarded (allowed call) (returns call) [])
    (guarded : system.Guarded allowed returns first)
    (action : TaskAction client) :
    (system.step action).Guarded allowed returns first := by
  cases action with
  | start call =>
      refine ⟨?_, guarded.commits, guarded.committed⟩
      intro task member
      rcases List.mem_append.mp member with old | new
      · exact guarded.tasks task old
      · cases List.mem_singleton.mp new
        exact ⟨programs call, nofun⟩
  | proceed index fault =>
      rw [Tasks.step]
      cases found : system.tasks[index]? with
      | none => exact guarded
      | some task =>
          obtain ⟨obeys, reached⟩ := guarded.proceed mono
            (guarded.tasks task (List.mem_of_getElem? found)) fault
          refine ⟨?_, reached.commits, reached.committed⟩
          intro other member
          rcases List.mem_or_eq_of_mem_set member with old | rfl
          · exact guarded.tasks other old
          · exact obeys

/-- However tasks take turns, they keep to their guards. -/
theorem Guarded.run {first : D.State} {system : Tasks client}
    (mono : ∀ call view seen write, allowed call seen write →
      allowed call (view :: seen) write)
    (programs : ∀ call,
      (client.program call).Guarded (allowed call) (returns call) [])
    (guarded : system.Guarded allowed returns first)
    (actions : List (TaskAction client)) :
    (system.run actions).Guarded allowed returns first := by
  induction actions generalizing system with
  | nil => exact guarded
  | cons action rest inductionHypothesis =>
      exact inductionHypothesis (guarded.step mono programs action)

/-- A task that has ended with a result was allowed to return it. -/
theorem Obeys.returned {task : Task client}
    {value : client.Result task.call} (obeys : Obeys allowed returns task)
    (ended : task.rest = .done (.ok value)) :
    returns task.call task.seen value := by
  have guardedRest := obeys.rest
  rw [ended] at guardedRest
  cases guardedRest with
  | done mayReturn => exact mayReturn value rfl

/-- What holds after some writes held before them, or one of them adds it. -/
theorem exists_of_applyAll {holds : D.State → Prop} {adds : D.Write → Prop}
    (step : ∀ write state, holds (D.apply write state) →
      holds state ∨ adds write)
    {writes : List D.Write} {state : D.State}
    (now : holds (D.applyAll writes state)) :
    holds state ∨ ∃ write ∈ writes, adds write := by
  induction writes generalizing state with
  | nil => exact Or.inl now
  | cons write rest inductionHypothesis =>
      rcases inductionHypothesis now with before | ⟨later, member, added⟩
      · rcases step write state before with old | added
        · exact Or.inl old
        · exact Or.inr ⟨write, List.mem_cons_self .., added⟩
      · exact Or.inr ⟨later, List.mem_cons_of_mem write member, added⟩

/-- What holds of the committed state held at first, or a commit has added it
with a write that it was allowed to make. -/
theorem Guarded.origin {holds : D.State → Prop} {adds : D.Write → Prop}
    (step : ∀ write state, holds (D.apply write state) →
      holds state ∨ adds write)
    {first : D.State} {system : Tasks client}
    (guarded : system.Guarded allowed returns first)
    (now : holds system.committed) :
    holds first ∨ ∃ commit ∈ system.commits, ∃ write ∈ commit.writes,
      adds write ∧ allowed commit.call commit.seen write := by
  rw [guarded.committed] at now
  rcases exists_of_applyAll step now with old | ⟨write, written, added⟩
  · exact Or.inl old
  · right
    obtain ⟨writes, isWrites, inWrites⟩ := List.mem_flatten.mp written
    obtain ⟨commit, isCommit, rfl⟩ := List.mem_map.mp isWrites
    rw [List.mem_reverse] at isCommit
    exact ⟨commit, isCommit, write, inWrites, added,
      guarded.commits commit isCommit write inWrites⟩

end Guards

end Tasks

end NetworkManager.Transaction
