/-!
# Programs over a transactional database

A client of a database runs statements one at a time inside a transaction and
ends the transaction with a commit.  A program is that sequence as data: the
statement it runs next, and what it does with the reply.  A statement or a
commit that fails ends the program with the error its caller gives to that
failure, and whatever the open transaction had written is dropped.

A program ends without a commit when its transaction is rolled back.
-/

namespace NetworkManager.Transaction

/-- A database as its clients see it.  `exec` answers a statement against a
state and lists the row writes the statement makes; `apply` makes one. -/
structure Database where
  Statement : Type
  Reply : Statement → Type
  Fault : Type
  State : Type
  Write : Type
  apply : Write → State → State
  exec : (statement : Statement) → State →
    Except Fault (Reply statement × List Write)

/-- Make several row writes, the first one first. -/
def Database.applyAll (D : Database) (writes : List D.Write)
    (state : D.State) : D.State :=
  writes.foldl (fun reached write => D.apply write reached) state

@[simp]
theorem Database.applyAll_nil (D : Database) (state : D.State) :
    D.applyAll [] state = state := rfl

@[simp]
theorem Database.applyAll_cons (D : Database) (write : D.Write)
    (writes : List D.Write) (state : D.State) :
    D.applyAll (write :: writes) state =
      D.applyAll writes (D.apply write state) := rfl

@[simp]
theorem Database.applyAll_append (D : Database)
    (earlier later : List D.Write) (state : D.State) :
    D.applyAll (earlier ++ later) state =
      D.applyAll later (D.applyAll earlier state) := by
  simp [Database.applyAll, List.foldl_append]

/-- A client program.  `onFault` is the error the program ends with when the
statement, or the commit, fails. -/
inductive Program (D : Database) (ε α : Type) : Type
  | done (outcome : Except ε α)
  | exec (statement : D.Statement) (onFault : D.Fault → ε)
      (next : D.Reply statement → Program D ε α)
  | commit (onFault : D.Fault → ε) (next : Program D ε α)

namespace Program

variable {D : Database} {ε α β γ : Type}

/-- Run `next` on the result of a program that ends well. -/
def bind : Program D ε α → (α → Program D ε β) → Program D ε β
  | .done (.ok value), next => next value
  | .done (.error failure), _ => .done (.error failure)
  | .exec statement onFault rest, next =>
      .exec statement onFault fun reply => (rest reply).bind next
  | .commit onFault rest, next => .commit onFault (rest.bind next)

instance : Monad (Program D ε) where
  pure value := .done (.ok value)
  bind := bind

instance : MonadExcept ε (Program D ε) where
  throw failure := .done (.error failure)
  tryCatch body handler :=
    match body with
    | .done (.error failure) => handler failure
    | other => other

/-- Run one statement and keep its reply. -/
def statement (query : D.Statement) (onFault : D.Fault → ε) :
    Program D ε (D.Reply query) :=
  .exec query onFault fun reply => .done (.ok reply)

/-- Commit the open transaction. -/
def commitNow (onFault : D.Fault → ε) : Program D ε Unit :=
  .commit onFault (.done (.ok ()))

/-- End the program with an error unless a check passes. -/
def check (passed : Bool) (failure : ε) : Program D ε Unit :=
  if passed then .done (.ok ()) else .done (.error failure)

/-- End the program with the error of a computation that needs no database. -/
def ofExcept (outcome : Except ε α) : Program D ε α := .done outcome

theorem pure_eq (value : α) :
    (pure value : Program D ε α) = .done (.ok value) := rfl

@[simp]
theorem done_ok_bind (value : α) (next : α → Program D ε β) :
    (Program.done (.ok value) >>= next) = next value := rfl

@[simp]
theorem done_error_bind (failure : ε) (next : α → Program D ε β) :
    (Program.done (.error failure) >>= next) = .done (.error failure) := rfl

@[simp]
theorem exec_bind (query : D.Statement) (onFault : D.Fault → ε)
    (rest : D.Reply query → Program D ε α) (next : α → Program D ε β) :
    (Program.exec query onFault rest >>= next) =
      .exec query onFault fun reply => rest reply >>= next := rfl

@[simp]
theorem commit_bind (onFault : D.Fault → ε) (rest : Program D ε α)
    (next : α → Program D ε β) :
    (Program.commit onFault rest >>= next) =
      .commit onFault (rest >>= next) := rfl

private theorem bind_done (program : Program D ε α) :
    (program >>= fun value => .done (.ok value)) = program := by
  induction program with
  | done outcome =>
      cases outcome with
      | error failure => rfl
      | ok value => rfl
  | exec query onFault next inductionHypothesis =>
      simp only [exec_bind, inductionHypothesis]
  | commit onFault next inductionHypothesis =>
      simp only [commit_bind, inductionHypothesis]

private theorem bind_assoc'
    (program : Program D ε α) (first : α → Program D ε β)
    (second : β → Program D ε γ) :
    (program >>= first) >>= second =
      program >>= fun value => first value >>= second := by
  induction program with
  | done outcome =>
      cases outcome with
      | error failure => rfl
      | ok value => rfl
  | exec query onFault next inductionHypothesis =>
      simp only [exec_bind, inductionHypothesis]
  | commit onFault next inductionHypothesis =>
      simp only [commit_bind, inductionHypothesis]

instance : LawfulMonad (Program D ε) :=
  LawfulMonad.mk' (Program D ε)
    (fun program => bind_done program)
    (fun _ _ => rfl)
    (fun program first second => bind_assoc' program first second)

/-- Do something for each element of a list, in order. -/
def forEach (action : β → Program D ε Unit) : List β → Program D ε Unit
  | [] => .done (.ok ())
  | element :: rest => action element >>= fun _ => forEach action rest

@[simp]
theorem forEach_nil (action : β → Program D ε Unit) :
    forEach action [] = pure () := rfl

@[simp]
theorem forEach_cons (action : β → Program D ε Unit) (element : β)
    (rest : List β) :
    forEach action (element :: rest) =
      action element >>= fun _ => forEach action rest := rfl

theorem forEach_append (action : β → Program D ε Unit)
    (first second : List β) :
    forEach action (first ++ second) =
      forEach action first >>= fun _ => forEach action second := by
  induction first with
  | nil => rfl
  | cons element rest inductionHypothesis =>
      rw [List.cons_append, forEach_cons, inductionHypothesis, forEach_cons,
        bind_assoc]

/-- Skipping some elements is going through the others. -/
theorem forEach_filterMap (action : γ → Program D ε Unit)
    (choose : β → Option γ) (elements : List β) :
    forEach action (elements.filterMap choose) =
      forEach (fun element => (choose element).elim (pure ()) action)
        elements := by
  induction elements with
  | nil => rfl
  | cons element rest inductionHypothesis =>
      cases chosen : choose element with
      | none =>
          rw [List.filterMap_cons_none chosen, forEach_cons,
            inductionHypothesis, chosen]
          rfl
      | some value =>
          rw [List.filterMap_cons_some chosen, forEach_cons, forEach_cons,
            inductionHypothesis, chosen]
          rfl

/-- The program never commits. -/
inductive CommitFree : Program D ε α → Prop
  | done (outcome : Except ε α) : CommitFree (.done outcome)
  | exec {query : D.Statement} {onFault : D.Fault → ε}
      {next : D.Reply query → Program D ε α} :
      (∀ reply, CommitFree (next reply)) →
      CommitFree (.exec query onFault next)

/-- A commit is the last thing the program does, and what follows it is the
result it returns. -/
inductive CommitsLast : Program D ε α → Prop
  | done (outcome : Except ε α) : CommitsLast (.done outcome)
  | exec {query : D.Statement} {onFault : D.Fault → ε}
      {next : D.Reply query → Program D ε α} :
      (∀ reply, CommitsLast (next reply)) →
      CommitsLast (.exec query onFault next)
  | commit (onFault : D.Fault → ε) (value : α) :
      CommitsLast (.commit onFault (.done (.ok value)))

theorem CommitFree.bind {program : Program D ε α}
    {next : α → Program D ε β} (first : program.CommitFree)
    (rest : ∀ value, (next value).CommitFree) :
    (program >>= next).CommitFree := by
  induction first with
  | done outcome =>
      cases outcome with
      | error failure => exact .done _
      | ok value => exact rest value
  | exec _ inductionHypothesis => exact .exec inductionHypothesis

theorem CommitFree.bind_commitsLast {program : Program D ε α}
    {next : α → Program D ε β} (first : program.CommitFree)
    (rest : ∀ value, (next value).CommitsLast) :
    (program >>= next).CommitsLast := by
  induction first with
  | done outcome =>
      cases outcome with
      | error failure => exact .done _
      | ok value => exact rest value
  | exec _ inductionHypothesis => exact .exec inductionHypothesis

/-- A result may be changed after the commit. -/
theorem CommitsLast.bind_pure {program : Program D ε α}
    (commitsLast : program.CommitsLast) (change : α → β) :
    (program >>= fun value => pure (change value)).CommitsLast := by
  induction commitsLast with
  | done outcome =>
      cases outcome with
      | error failure => exact .done _
      | ok value => exact .done _
  | exec _ inductionHypothesis => exact .exec inductionHypothesis
  | commit onFault value => exact .commit onFault (change value)

theorem commitFree_statement (query : D.Statement)
    (onFault : D.Fault → ε) :
    (statement query onFault).CommitFree :=
  .exec fun _ => .done _

theorem commitFree_check (passed : Bool) (failure : ε) :
    (check passed failure : Program D ε Unit).CommitFree := by
  cases passed <;> exact .done _

theorem commitFree_ofExcept (outcome : Except ε α) :
    (ofExcept outcome : Program D ε α).CommitFree := .done outcome

theorem commitFree_forEach {action : β → Program D ε Unit}
    (each : ∀ element, (action element).CommitFree) :
    ∀ elements : List β, (forEach action elements).CommitFree
  | [] => .done _
  | element :: rest =>
      CommitFree.bind (each element) fun _ => commitFree_forEach each rest

theorem commitsLast_commitNow_bind (onFault : D.Fault → ε) (value : α) :
    (commitNow onFault >>= fun _ => Program.done (.ok value)).CommitsLast :=
  .commit onFault value

end Program

end NetworkManager.Transaction
