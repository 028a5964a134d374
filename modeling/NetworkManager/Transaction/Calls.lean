import NetworkManager.Transaction.Program

/-!
# One call at a time

The meaning of a program that has the database to itself.  A connection keeps
the committed state apart from the working state of its open transaction, so a
failure is a return to the committed one.

Any statement and any commit may fail for a reason outside the model: a lost
connection, a value a column type refuses, a foreign key.  A fault plan says
which of them do.  For programs that commit once, at their end, a fault never
does anything but lose the whole call.
-/

namespace NetworkManager.Transaction

variable {D : Database} {ε α β : Type}

/-- The committed state, and the state the open transaction works on. -/
structure Connection (D : Database) where
  committed : D.State
  working : D.State

/-- A connection with nothing written since the last commit. -/
def Connection.fresh (state : D.State) : Connection D := ⟨state, state⟩

/-- Drop what the open transaction wrote. -/
def Connection.rollback (connection : Connection D) : Connection D :=
  .fresh connection.committed

namespace Program

/-- Run a program.  Entry `n` of the plan is the fault, if any, of the `n`th
statement or commit; past the end of the plan nothing fails.  A commit that
fails has not taken place: that only its acknowledgement is lost is not a
fault of a plan. -/
def evalFaulty : Program D ε α → List (Option D.Fault) → Connection D →
    Except ε α × Connection D
  | .done outcome, _, connection => (outcome, connection)
  | .exec statement onFault next, plan, connection =>
      match plan.head?.join with
      | some fault => (.error (onFault fault), connection.rollback)
      | none =>
          match D.exec statement connection.working with
          | .error fault => (.error (onFault fault), connection.rollback)
          | .ok (reply, writes) =>
              (next reply).evalFaulty plan.tail
                ⟨connection.committed, D.applyAll writes connection.working⟩
  | .commit onFault next, plan, connection =>
      match plan.head?.join with
      | some fault => (.error (onFault fault), connection.rollback)
      | none => next.evalFaulty plan.tail (.fresh connection.working)

/-- Run a program on a connection where nothing fails but what the database
itself refuses. -/
def eval (program : Program D ε α) (connection : Connection D) :
    Except ε α × Connection D :=
  program.evalFaulty [] connection

/-- The outcome of a whole call and the state it leaves committed. -/
def callFaulty (program : Program D ε α) (plan : List (Option D.Fault))
    (state : D.State) : Except ε α × D.State :=
  ((program.evalFaulty plan (.fresh state)).1,
    (program.evalFaulty plan (.fresh state)).2.committed)

/-- A whole call without faults. -/
def call (program : Program D ε α) (state : D.State) : Except ε α × D.State :=
  program.callFaulty [] state

theorem call_eq (program : Program D ε α) (state : D.State) :
    program.call state =
      ((program.eval (.fresh state)).1,
        (program.eval (.fresh state)).2.committed) := rfl

@[simp]
theorem eval_done (outcome : Except ε α) (connection : Connection D) :
    (Program.done outcome : Program D ε α).eval connection =
      (outcome, connection) := rfl

theorem eval_exec (query : D.Statement) (onFault : D.Fault → ε)
    (next : D.Reply query → Program D ε α) (connection : Connection D) :
    (Program.exec query onFault next).eval connection =
      match D.exec query connection.working with
      | .error fault => (.error (onFault fault), connection.rollback)
      | .ok (reply, writes) =>
          (next reply).eval
            ⟨connection.committed,
              D.applyAll writes connection.working⟩ := by
  rw [eval, evalFaulty]
  rfl

@[simp]
theorem eval_commit (onFault : D.Fault → ε) (next : Program D ε α)
    (connection : Connection D) :
    (Program.commit onFault next).eval connection =
      next.eval (.fresh connection.working) := rfl

@[simp]
theorem eval_commitNow (onFault : D.Fault → ε) (connection : Connection D) :
    (commitNow onFault : Program D ε Unit).eval connection =
      (.ok (), .fresh connection.working) := rfl

theorem eval_exec_ok {query : D.Statement} {onFault : D.Fault → ε}
    {next : D.Reply query → Program D ε α} {committed working : D.State}
    {reply : D.Reply query} {writes : List D.Write}
    (answered : D.exec query working = .ok (reply, writes)) :
    (Program.exec query onFault next).eval ⟨committed, working⟩ =
      (next reply).eval ⟨committed, D.applyAll writes working⟩ := by
  rw [eval_exec, answered]

theorem eval_exec_error {query : D.Statement} {onFault : D.Fault → ε}
    {next : D.Reply query → Program D ε α} {committed working : D.State}
    {fault : D.Fault}
    (refused : D.exec query working = .error fault) :
    (Program.exec query onFault next).eval ⟨committed, working⟩ =
      (.error (onFault fault), .fresh committed) := by
  rw [eval_exec, refused]
  rfl

theorem eval_statement_bind_ok {query : D.Statement} {onFault : D.Fault → ε}
    {next : D.Reply query → Program D ε β} {connection : Connection D}
    {reply : D.Reply query} {writes : List D.Write}
    (answered : D.exec query connection.working = .ok (reply, writes)) :
    (statement query onFault >>= next).eval connection =
      (next reply).eval
        ⟨connection.committed, D.applyAll writes connection.working⟩ := by
  rw [statement, exec_bind, eval_exec_ok answered]
  rfl

theorem eval_statement_bind_error {query : D.Statement}
    {onFault : D.Fault → ε} {next : D.Reply query → Program D ε β}
    {connection : Connection D} {fault : D.Fault}
    (refused : D.exec query connection.working = .error fault) :
    (statement query onFault >>= next).eval connection =
      (.error (onFault fault), connection.rollback) := by
  rw [statement, exec_bind, eval_exec_error refused]
  rfl

@[simp]
theorem check_true_bind (failure : ε) (next : Unit → Program D ε β) :
    (check true failure >>= next) = next () := rfl

@[simp]
theorem check_false_bind (failure : ε) (next : Unit → Program D ε β) :
    (check false failure >>= next) = .done (.error failure) := rfl

/-- A bind runs the first program and hands its connection to the second. -/
theorem eval_bind (program : Program D ε α) (next : α → Program D ε β)
    (connection : Connection D) :
    (program >>= next).eval connection =
      match program.eval connection with
      | (.ok value, reached) => (next value).eval reached
      | (.error failure, reached) => (.error failure, reached) := by
  induction program generalizing connection with
  | done outcome =>
      cases outcome with
      | error failure => rfl
      | ok value => rfl
  | exec query onFault rest inductionHypothesis =>
      rw [exec_bind, eval_exec, eval_exec]
      cases D.exec query connection.working with
      | error fault => rfl
      | ok answer => exact inductionHypothesis answer.1 _
  | commit onFault rest inductionHypothesis =>
      exact inductionHypothesis _

theorem eval_bind_ok {program : Program D ε α} {next : α → Program D ε β}
    {connection reached : Connection D} {value : α}
    (first : program.eval connection = (.ok value, reached)) :
    (program >>= next).eval connection = (next value).eval reached := by
  rw [eval_bind, first]

theorem eval_bind_error {program : Program D ε α} {next : α → Program D ε β}
    {connection reached : Connection D} {failure : ε}
    (first : program.eval connection = (.error failure, reached)) :
    (program >>= next).eval connection = (.error failure, reached) := by
  rw [eval_bind, first]

/-- Whatever state the program commits, started on `working`, satisfies
`holds`. -/
inductive CommitsOnly (holds : D.State → Prop) :
    Program D ε α → D.State → Prop
  | done (outcome : Except ε α) (working : D.State) :
      CommitsOnly holds (.done outcome) working
  | exec {query : D.Statement} {onFault : D.Fault → ε}
      {next : D.Reply query → Program D ε α} {working : D.State} :
      (∀ reply writes, D.exec query working = .ok (reply, writes) →
        CommitsOnly holds (next reply) (D.applyAll writes working)) →
      CommitsOnly holds (.exec query onFault next) working
  | commit {onFault : D.Fault → ε} {next : Program D ε α}
      {working : D.State} :
      holds working → CommitsOnly holds next working →
      CommitsOnly holds (.commit onFault next) working

theorem CommitsOnly.statement_bind {holds : D.State → Prop}
    {query : D.Statement} {onFault : D.Fault → ε}
    {next : D.Reply query → Program D ε α} {working : D.State}
    (rest : ∀ reply writes, D.exec query working = .ok (reply, writes) →
      (next reply).CommitsOnly holds (D.applyAll writes working)) :
    (statement query onFault >>= next).CommitsOnly holds working :=
  .exec rest

theorem CommitsOnly.commitNow_bind {holds : D.State → Prop}
    {onFault : D.Fault → ε} {next : Unit → Program D ε α}
    {working : D.State} (committed : holds working)
    (rest : (next ()).CommitsOnly holds working) :
    (commitNow onFault >>= next).CommitsOnly holds working :=
  .commit committed rest

theorem CommitsOnly.check_bind {holds : D.State → Prop} {passed : Bool}
    {failure : ε} {next : Unit → Program D ε α} {working : D.State}
    (rest : passed = true → (next ()).CommitsOnly holds working) :
    (check passed failure >>= next).CommitsOnly holds working := by
  cases passed with
  | false => exact .done _ _
  | true => exact rest rfl

theorem CommitsOnly.ofExcept_bind {holds : D.State → Prop}
    {outcome : Except ε β} {next : β → Program D ε α} {working : D.State}
    (rest : ∀ value, outcome = .ok value →
      (next value).CommitsOnly holds working) :
    (ofExcept outcome >>= next).CommitsOnly holds working := by
  cases outcome with
  | error failure => exact .done _ _
  | ok value => exact rest value rfl

theorem CommitFree.commitsOnly {holds : D.State → Prop}
    {program : Program D ε α} (commitFree : program.CommitFree)
    (working : D.State) : program.CommitsOnly holds working := by
  induction commitFree generalizing working with
  | done outcome => exact .done _ _
  | exec _ inductionHypothesis =>
      exact .exec fun reply _ _ => inductionHypothesis reply _

theorem CommitsOnly.mono {holds weaker : D.State → Prop}
    {program : Program D ε α} {working : D.State}
    (commitsOnly : program.CommitsOnly holds working)
    (implies : ∀ state, holds state → weaker state) :
    program.CommitsOnly weaker working := by
  induction commitsOnly with
  | done outcome working => exact .done _ _
  | exec _ inductionHypothesis => exact .exec inductionHypothesis
  | commit now _ inductionHypothesis =>
      exact .commit (implies _ now) inductionHypothesis

/-- Under any faults the committed state is the one before, or one that the
program commits. -/
theorem CommitsOnly.evalFaulty {holds : D.State → Prop}
    {program : Program D ε α} {working : D.State}
    (commitsOnly : program.CommitsOnly holds working)
    (plan : List (Option D.Fault)) {committed : D.State}
    (before : holds committed) :
    holds (program.evalFaulty plan ⟨committed, working⟩).2.committed := by
  induction commitsOnly generalizing plan committed with
  | done outcome working => exact before
  | @exec query onFault next working _ inductionHypothesis =>
      rw [Program.evalFaulty]
      cases plan.head?.join with
      | some fault => exact before
      | none =>
          cases answered : D.exec query working with
          | error fault => exact before
          | ok answer =>
              exact inductionHypothesis answer.1 answer.2 answered plan.tail
                before
  | @commit onFault next working now _ inductionHypothesis =>
      rw [Program.evalFaulty]
      cases plan.head?.join with
      | some fault => exact before
      | none => exact inductionHypothesis plan.tail now

theorem CommitsOnly.callFaulty {holds : D.State → Prop}
    {program : Program D ε α} {state : D.State}
    (commitsOnly : program.CommitsOnly holds state)
    (plan : List (Option D.Fault)) (before : holds state) :
    holds (program.callFaulty plan state).2 :=
  commitsOnly.evalFaulty plan before

/-- The program runs no statement but allowed ones. -/
inductive Runs (allowed : D.Statement → Prop) : Program D ε α → Prop
  | done (outcome : Except ε α) : Runs allowed (.done outcome)
  | exec {query : D.Statement} {onFault : D.Fault → ε}
      {next : D.Reply query → Program D ε α} :
      allowed query → (∀ reply, Runs allowed (next reply)) →
      Runs allowed (.exec query onFault next)
  | commit {onFault : D.Fault → ε} {next : Program D ε α} :
      Runs allowed next → Runs allowed (.commit onFault next)

theorem Runs.bind {allowed : D.Statement → Prop} {program : Program D ε α}
    {next : α → Program D ε β} (first : program.Runs allowed)
    (rest : ∀ value, (next value).Runs allowed) :
    (program >>= next).Runs allowed := by
  induction first with
  | done outcome =>
      cases outcome with
      | error failure => exact .done _
      | ok value => exact rest value
  | exec isAllowed _ inductionHypothesis =>
      exact .exec isAllowed inductionHypothesis
  | commit _ inductionHypothesis => exact .commit inductionHypothesis

theorem Runs.of_statement {allowed : D.Statement → Prop}
    {query : D.Statement} (onFault : D.Fault → ε)
    (isAllowed : allowed query) : (statement query onFault).Runs allowed :=
  .exec isAllowed fun _ => .done _

theorem runs_check {allowed : D.Statement → Prop} (passed : Bool)
    (failure : ε) : (check passed failure : Program D ε Unit).Runs allowed := by
  cases passed <;> exact .done _

theorem runs_all (program : Program D ε α) :
    program.Runs fun _ => True := by
  induction program with
  | done outcome => exact .done outcome
  | exec query onFault next inductionHypothesis =>
      exact .exec trivial inductionHypothesis
  | commit onFault next inductionHypothesis =>
      exact .commit inductionHypothesis

private theorem Runs.evalFaulty {allowed : D.Statement → Prop}
    {holds : D.State → Prop}
    (kept : ∀ query state reply writes, allowed query → holds state →
      D.exec query state = .ok (reply, writes) →
      holds (D.applyAll writes state))
    {program : Program D ε α} (runs : program.Runs allowed)
    (plan : List (Option D.Fault)) {connection : Connection D}
    (committed : holds connection.committed)
    (working : holds connection.working) :
    holds (program.evalFaulty plan connection).2.committed := by
  induction runs generalizing plan connection with
  | done outcome => exact committed
  | exec isAllowed _ inductionHypothesis =>
      rw [Program.evalFaulty]
      cases plan.head?.join with
      | some fault => exact committed
      | none =>
          cases answered : D.exec _ connection.working with
          | error fault => exact committed
          | ok answer =>
              have stillHolds :=
                kept _ _ answer.1 answer.2 isAllowed working answered
              exact inductionHypothesis answer.1 plan.tail committed stillHolds
  | commit _ inductionHypothesis =>
      rw [Program.evalFaulty]
      cases plan.head?.join with
      | some fault => exact committed
      | none => exact inductionHypothesis plan.tail working working

/-- What every statement that a program may run keeps, each call of the program
keeps, whatever fails in it. -/
theorem Runs.callFaulty {allowed : D.Statement → Prop}
    {holds : D.State → Prop}
    (kept : ∀ query state reply writes, allowed query → holds state →
      D.exec query state = .ok (reply, writes) →
      holds (D.applyAll writes state))
    {program : Program D ε α} (runs : program.Runs allowed)
    (plan : List (Option D.Fault)) {state : D.State} (start : holds state) :
    holds (program.callFaulty plan state).2 :=
  runs.evalFaulty kept plan start start

/-- What every statement keeps, every call keeps. -/
theorem call_invariant {holds : D.State → Prop}
    (kept : ∀ query state reply writes, holds state →
      D.exec query state = .ok (reply, writes) →
      holds (D.applyAll writes state))
    (program : Program D ε α) {state : D.State} (start : holds state) :
    holds (program.call state).2 :=
  (runs_all program).callFaulty
    (fun query state reply writes _ => kept query state reply writes) [] start

/-- The next statement or commit does not fail by a fault, and so on for some
more of them. -/
def Faultless {φ : Type} : Nat → List (Option φ) → Prop
  | 0, _ => True
  | count + 1, plan => plan.head?.join = none ∧ Faultless count plan.tail

/-- A statement fails, or is answered and the program goes on. -/
theorem evalFaulty_statement_bind (query : D.Statement) (onFault : D.Fault → ε)
    (next : D.Reply query → Program D ε α) (plan : List (Option D.Fault))
    (connection : Connection D) :
    ((∃ fault, (statement query onFault >>= next).evalFaulty plan connection =
        (.error (onFault fault), connection.rollback)) ∧
      (plan.head?.join = none →
        ∃ fault, D.exec query connection.working = .error fault)) ∨
    (plan.head?.join = none ∧ ∃ reply writes,
      D.exec query connection.working = .ok (reply, writes) ∧
      (statement query onFault >>= next).evalFaulty plan connection =
        (next reply).evalFaulty plan.tail
          ⟨connection.committed, D.applyAll writes connection.working⟩) := by
  rw [statement, exec_bind, evalFaulty]
  cases planned : plan.head?.join with
  | some fault => exact Or.inl ⟨⟨fault, rfl⟩, nofun⟩
  | none =>
      cases answered : D.exec query connection.working with
      | error fault => exact Or.inl ⟨⟨fault, rfl⟩, fun _ => ⟨fault, rfl⟩⟩
      | ok answer => exact Or.inr ⟨rfl, answer.1, answer.2, rfl, rfl⟩

/-- A commit fails, or the program goes on from the committed state. -/
theorem evalFaulty_commitNow_bind (onFault : D.Fault → ε)
    (next : Unit → Program D ε α) (plan : List (Option D.Fault))
    (connection : Connection D) :
    ((∃ fault, (commitNow onFault >>= next).evalFaulty plan connection =
        (.error (onFault fault), connection.rollback)) ∧
      plan.head?.join ≠ none) ∨
    (plan.head?.join = none ∧
      (commitNow onFault >>= next).evalFaulty plan connection =
        (next ()).evalFaulty plan.tail (.fresh connection.working)) := by
  rw [commitNow, commit_bind, evalFaulty]
  cases planned : plan.head?.join with
  | some fault => exact Or.inl ⟨⟨fault, rfl⟩, nofun⟩
  | none => exact Or.inr ⟨rfl, rfl⟩

theorem eval_bind_eq_ok {program : Program D ε α}
    {next : α → Program D ε β} {connection reached : Connection D} {value : β}
    (ended : (program >>= next).eval connection = (.ok value, reached)) :
    ∃ first middle, program.eval connection = (.ok first, middle) ∧
      (next first).eval middle = (.ok value, reached) := by
  rw [eval_bind] at ended
  rcases ran : program.eval connection with ⟨outcome, middle⟩
  rw [ran] at ended
  cases outcome with
  | error failure => simp at ended
  | ok first => exact ⟨first, middle, rfl, ended⟩

theorem eval_statement_eq_ok {query : D.Statement} {onFault : D.Fault → ε}
    {connection reached : Connection D} {reply : D.Reply query}
    (ended : (statement query onFault).eval connection =
      (.ok reply, reached)) :
    ∃ writes, D.exec query connection.working = .ok (reply, writes) ∧
      reached =
        ⟨connection.committed, D.applyAll writes connection.working⟩ := by
  rw [statement, eval_exec] at ended
  cases answered : D.exec query connection.working with
  | error fault => simp [answered] at ended
  | ok answer =>
      obtain ⟨given, writes⟩ := answer
      simp only [answered, eval_done, Prod.mk.injEq, Except.ok.injEq] at ended
      obtain ⟨rfl, rfl⟩ := ended
      exact ⟨writes, rfl, rfl⟩

theorem eval_ofExcept_eq_ok {outcome : Except ε α}
    {connection reached : Connection D} {value : α}
    (ended : (ofExcept outcome : Program D ε α).eval connection =
      (.ok value, reached)) :
    outcome = .ok value ∧ reached = connection := by
  rw [ofExcept, eval_done, Prod.mk.injEq] at ended
  exact ⟨ended.1, ended.2.symm⟩

theorem eval_check_eq_ok {passed : Bool} {failure : ε}
    {connection reached : Connection D} {value : Unit}
    (ended : (check passed failure : Program D ε Unit).eval connection =
      (.ok value, reached)) :
    passed = true ∧ reached = connection := by
  cases passed with
  | false => simp [check] at ended
  | true =>
      rw [check, if_pos rfl, eval_done, Prod.mk.injEq] at ended
      exact ⟨rfl, ended.2.symm⟩

theorem eval_commitNow_eq_ok {onFault : D.Fault → ε}
    {connection reached : Connection D} {value : Unit}
    (ended : (commitNow onFault : Program D ε Unit).eval connection =
      (.ok value, reached)) :
    reached = .fresh connection.working := by
  rw [eval_commitNow, Prod.mk.injEq] at ended
  exact ended.2.symm

theorem eval_pure_eq_ok {result value : α}
    {connection reached : Connection D}
    (ended : (pure result : Program D ε α).eval connection =
      (.ok value, reached)) :
    value = result ∧ reached = connection := by
  rw [pure_eq, eval_done, Prod.mk.injEq, Except.ok.injEq] at ended
  exact ⟨ended.1.symm, ended.2.symm⟩

theorem call_of_eval {program : Program D ε α} {state : D.State}
    {outcome : Except ε α} {final : Connection D}
    (ended : program.eval (.fresh state) = (outcome, final)) :
    program.call state = (outcome, final.committed) := by
  rw [call_eq, ended]

theorem call_eq_ok {program : Program D ε α} {state reached : D.State}
    {value : α} (ended : program.call state = (.ok value, reached)) :
    ∃ final, program.eval (.fresh state) = (.ok value, final) ∧
      reached = final.committed := by
  rw [call_eq, Prod.mk.injEq] at ended
  obtain ⟨outcome, committed⟩ := ended
  exact ⟨(program.eval (.fresh state)).2, Prod.ext outcome rfl,
    committed.symm⟩

theorem call_of_outcome {program : Program D ε α} {state : D.State}
    {outcome : Except ε α} (ended : (program.call state).1 = outcome) :
    program.call state = (outcome, (program.call state).2) :=
  Prod.ext ended rfl

/-- A program that commits last either runs as if nothing had failed or ends
with an error and the committed state it began with. -/
theorem evalFaulty_cases (program : Program D ε α)
    (commitsLast : program.CommitsLast) (plan : List (Option D.Fault))
    (connection : Connection D) :
    program.evalFaulty plan connection = program.eval connection ∨
      ∃ failure, program.evalFaulty plan connection =
        (.error failure, connection.rollback) := by
  induction commitsLast generalizing plan connection with
  | done outcome => exact Or.inl rfl
  | @exec query onFault next _ inductionHypothesis =>
      rw [evalFaulty]
      cases plan.head?.join with
      | some fault => exact Or.inr ⟨onFault fault, rfl⟩
      | none =>
          rw [eval_exec]
          cases answered : D.exec query connection.working with
          | error fault => exact Or.inl rfl
          | ok answer =>
              exact inductionHypothesis answer.1 plan.tail _
  | commit onFault value =>
      rw [evalFaulty]
      cases plan.head?.join with
      | some fault => exact Or.inr ⟨onFault fault, rfl⟩
      | none => exact Or.inl rfl

/-- A program that commits last and ends with an error has not committed. -/
theorem eval_error_committed {program : Program D ε α}
    (commitsLast : program.CommitsLast) {reached : Connection D}
    {failure : ε} :
    ∀ {connection : Connection D},
      program.eval connection = (.error failure, reached) →
        reached.committed = connection.committed := by
  induction commitsLast with
  | done outcome =>
      intro connection ended
      rw [eval_done, Prod.mk.injEq] at ended
      rw [← ended.2]
  | @exec query onFault next _ inductionHypothesis =>
      intro connection ended
      rw [eval_exec] at ended
      cases answered : D.exec query connection.working with
      | error fault =>
          rw [answered, Prod.mk.injEq] at ended
          rw [← ended.2]
          rfl
      | ok answer =>
          rw [answered] at ended
          simpa using inductionHypothesis answer.1 ended
  | commit onFault value =>
      intro connection ended
      simp at ended

theorem call_error {program : Program D ε α}
    (commitsLast : program.CommitsLast) {state reached : D.State}
    {failure : ε} (ended : program.call state = (.error failure, reached)) :
    reached = state := by
  rw [call_eq, Prod.mk.injEq] at ended
  have evaluated :
      program.eval (.fresh state) =
        (.error failure, (program.eval (.fresh state)).2) := by
    rw [← ended.1]
  rw [← ended.2]
  exact eval_error_committed commitsLast evaluated

private theorem callFaulty_cases (program : Program D ε α)
    (commitsLast : program.CommitsLast) (plan : List (Option D.Fault))
    (state : D.State) :
    program.callFaulty plan state = program.call state ∨
      ∃ failure, program.callFaulty plan state = (.error failure, state) := by
  rcases evalFaulty_cases program commitsLast plan (.fresh state) with
    same | ⟨failure, lost⟩
  · exact Or.inl (by rw [callFaulty, call_eq, same])
  · exact Or.inr ⟨failure, by rw [callFaulty, lost]; rfl⟩

/-- Whatever fails, a call that returns an error leaves the committed state as
it was. -/
theorem callFaulty_error {program : Program D ε α}
    (commitsLast : program.CommitsLast) {plan : List (Option D.Fault)}
    {state reached : D.State} {failure : ε}
    (ended : program.callFaulty plan state = (.error failure, reached)) :
    reached = state := by
  rcases callFaulty_cases program commitsLast plan state with
    same | ⟨_, lost⟩
  · exact call_error commitsLast (same ▸ ended)
  · rw [lost, Prod.mk.injEq] at ended
    exact ended.2.symm

/-- Whatever fails, a program that returns a result ran as if nothing had. -/
theorem evalFaulty_ok (program : Program D ε α) {plan : List (Option D.Fault)}
    {connection reached : Connection D} {value : α}
    (ended : program.evalFaulty plan connection = (.ok value, reached)) :
    program.eval connection = (.ok value, reached) := by
  induction program generalizing plan connection with
  | done outcome => exact ended
  | exec query onFault next inductionHypothesis =>
      rw [evalFaulty] at ended
      rw [eval_exec]
      cases planned : plan.head?.join with
      | some fault => simp [planned] at ended
      | none =>
          rw [planned] at ended
          cases answered : D.exec query connection.working with
          | error fault => simp [answered] at ended
          | ok answer =>
              rw [answered] at ended
              exact inductionHypothesis answer.1 ended
  | commit onFault next inductionHypothesis =>
      rw [evalFaulty] at ended
      cases planned : plan.head?.join with
      | some fault => simp [planned] at ended
      | none =>
          rw [planned] at ended
          exact inductionHypothesis ended

/-- Whatever fails, a call that returns a result ran as if nothing had. -/
theorem callFaulty_ok {program : Program D ε α} {plan : List (Option D.Fault)}
    {state reached : D.State} {value : α}
    (ended : program.callFaulty plan state = (.ok value, reached)) :
    program.call state = (.ok value, reached) := by
  rw [callFaulty, Prod.mk.injEq] at ended
  obtain ⟨outcome, committed⟩ := ended
  have evaluated := evalFaulty_ok program (Prod.ext outcome rfl)
  rw [call_of_eval evaluated, committed]

end Program

/-- The calls a component offers and the program each of them runs. -/
structure Client (D : Database) (ε : Type) where
  Call : Type
  Result : Call → Type
  program : (call : Call) → Program D ε (Result call)

/-- The states reached by any sequence of calls, each under any faults. -/
inductive Client.Reachable (client : Client D ε) (initial : D.State → Prop) :
    D.State → Prop
  | initial {state : D.State} : initial state →
      client.Reachable initial state
  | call {state : D.State} (call : client.Call)
      (plan : List (Option D.Fault)) :
      client.Reachable initial state →
      client.Reachable initial ((client.program call).callFaulty plan state).2

theorem Client.Reachable.of_call {client : Client D ε}
    {initial : D.State → Prop} {state reached : D.State} {call : client.Call}
    {outcome : Except ε (client.Result call)}
    (reachable : client.Reachable initial state)
    (ended : (client.program call).call state = (outcome, reached)) :
    client.Reachable initial reached := by
  have called := reachable.call call []
  have isReached : ((client.program call).callFaulty [] state).2 = reached :=
    congrArg Prod.snd ended
  rw [isReached] at called
  exact called

/-- What holds initially, and in every state that a call commits, holds in
every reachable state. -/
theorem Client.Reachable.commitsOnly {client : Client D ε}
    {initial holds : D.State → Prop}
    (start : ∀ state, initial state → holds state)
    (kept : ∀ call state, holds state →
      (client.program call).CommitsOnly holds state)
    {state : D.State} (reachable : client.Reachable initial state) :
    holds state := by
  induction reachable with
  | initial isInitial => exact start _ isInitial
  | call call plan _ inductionHypothesis =>
      exact (kept call _ inductionHypothesis).callFaulty plan
        inductionHypothesis

/-- What holds initially, and is kept by every call that returns a result,
holds in every reachable state: a call that returns an error changes nothing. -/
theorem Client.Reachable.invariant {client : Client D ε}
    {initial holds : D.State → Prop}
    (commitsLast : ∀ call, (client.program call).CommitsLast)
    (start : ∀ state, initial state → holds state)
    (kept : ∀ call state result reached, holds state →
      (client.program call).call state = (.ok result, reached) →
      holds reached)
    {state : D.State} (reachable : client.Reachable initial state) :
    holds state := by
  induction reachable with
  | initial isInitial => exact start _ isInitial
  | @call state call plan _ inductionHypothesis =>
      cases ended : (client.program call).callFaulty plan state with
      | mk outcome reached =>
          cases outcome with
          | error failure =>
              rw [Program.callFaulty_error (commitsLast call) ended]
              exact inductionHypothesis
          | ok result =>
              exact kept call state result reached inductionHypothesis
                (Program.callFaulty_ok ended)

end NetworkManager.Transaction
