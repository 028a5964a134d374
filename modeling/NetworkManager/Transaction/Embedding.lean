import NetworkManager.Transaction.Interleaving

/-!
# Programs of a component

A database may contain another one as a component, with statements of its own.
A program of the component is then a program of the whole, which does to the
component what it does alone and leaves everything else as it is.
-/

namespace NetworkManager.Transaction

/-- The answer of a component, in the terms of the whole. -/
def liftAnswer {φ ψ ρ σ ω υ : Type} (toFault : φ → ψ) (toReply : ρ → σ)
    (toWrite : ω → υ) (answer : Except φ (ρ × List ω)) :
    Except ψ (σ × List υ) :=
  match answer with
  | .error fault => .error (toFault fault)
  | .ok (reply, writes) => .ok (toReply reply, writes.map toWrite)

/-- What a lifted answer writes are writes of the component. -/
theorem writes_of_liftAnswer {φ ψ ρ σ ω υ : Type} {toFault : φ → ψ}
    {toReply : ρ → σ} {toWrite : ω → υ} {answer : Except φ (ρ × List ω)}
    {reply : σ} {writes : List υ}
    (answered : liftAnswer toFault toReply toWrite answer =
      .ok (reply, writes)) :
    ∃ inner, writes = List.map toWrite inner := by
  cases answer with
  | error fault => cases answered
  | ok given =>
      have same := Prod.mk.inj (Except.ok.inj answered)
      exact ⟨given.2, same.2.symm⟩

/-- What is lifted is an answer of the component. -/
theorem eq_ok_of_liftAnswer {φ ψ ρ σ ω υ : Type} {toFault : φ → ψ}
    {toReply : ρ → σ} {toWrite : ω → υ} {answer : Except φ (ρ × List ω)}
    {reply : σ} {writes : List υ}
    (answered : liftAnswer toFault toReply toWrite answer =
      .ok (reply, writes)) :
    ∃ given inner, answer = .ok (given, inner) ∧
      writes = inner.map toWrite := by
  cases answer with
  | error fault => cases answered
  | ok answer =>
      have same := Prod.mk.inj (Except.ok.inj answered)
      exact ⟨answer.1, answer.2, rfl, same.2.symm⟩

/-- The database `D` is a component of the database `E`. -/
structure Embedding (D E : Database) where
  component : E.State → D.State
  replace : D.State → E.State → E.State
  statement : D.Statement → E.Statement
  reply : {query : D.Statement} → E.Reply (statement query) → D.Reply query
  toReply : {query : D.Statement} → D.Reply query → E.Reply (statement query)
  fault : E.Fault → D.Fault
  toFault : D.Fault → E.Fault
  toWrite : D.Write → E.Write
  reply_toReply : ∀ {query} (given : D.Reply query),
    reply (toReply given) = given
  fault_toFault : ∀ given, fault (toFault given) = given
  component_replace : ∀ part whole, component (replace part whole) = part
  replace_component : ∀ whole, replace (component whole) whole = whole
  replace_replace : ∀ part first whole,
    replace part (replace first whole) = replace part whole
  exec_eq : ∀ query whole, E.exec (statement query) whole =
    liftAnswer toFault toReply toWrite (D.exec query (component whole))
  apply_eq : ∀ write whole, E.apply (toWrite write) whole =
    replace (D.apply write (component whole)) whole

namespace Embedding

variable {D E : Database} {ε δ α β : Type} (embedding : Embedding D E)

theorem applyAll_eq (writes : List D.Write) (whole : E.State) :
    E.applyAll (writes.map embedding.toWrite) whole =
      embedding.replace (D.applyAll writes (embedding.component whole))
        whole := by
  induction writes generalizing whole with
  | nil => exact (embedding.replace_component whole).symm
  | cons write rest inductionHypothesis =>
      rw [List.map_cons, Database.applyAll_cons, Database.applyAll_cons,
        inductionHypothesis, embedding.apply_eq, embedding.component_replace,
        embedding.replace_replace]

/-- Run a program of the component in the whole, with its errors turned into
those of the caller. -/
def lift (wrap : ε → δ) : Program D ε α → Program E δ α
  | .done (.ok value) => .done (.ok value)
  | .done (.error failure) => .done (.error (wrap failure))
  | .exec query onFault next =>
      .exec (embedding.statement query)
        (fun fault => wrap (onFault (embedding.fault fault)))
        (fun reply => lift wrap (next (embedding.reply reply)))
  | .commit onFault next =>
      .commit (fun fault => wrap (onFault (embedding.fault fault)))
        (lift wrap next)

variable {embedding} {wrap : ε → δ}

theorem commitFree_lift {program : Program D ε α}
    (commitFree : program.CommitFree) :
    (embedding.lift wrap program).CommitFree := by
  induction commitFree with
  | done outcome =>
      cases outcome with
      | ok value => exact .done _
      | error failure => exact .done _
  | exec _ inductionHypothesis =>
      exact .exec fun reply => inductionHypothesis _

/-- A lifted program runs statements of the component only. -/
theorem uses_lift {program : Program D ε α} (commitFree : program.CommitFree) :
    (embedding.lift wrap program).Uses
      (fun query => ∃ inner, query = embedding.statement inner) := by
  induction commitFree with
  | done outcome =>
      cases outcome with
      | ok value => exact .done _
      | error failure => exact .done _
  | exec _ inductionHypothesis =>
      exact .exec ⟨_, rfl⟩ fun reply => inductionHypothesis _

/-- In the whole, a program ends as it does in the component. -/
theorem eval_lift {program : Program D ε α} (commitFree : program.CommitFree)
    {committed working : E.State} {outcome : Except ε α}
    {final : Connection D}
    (ended : program.eval
      ⟨embedding.component committed, embedding.component working⟩ =
        (outcome, final)) :
    ((embedding.lift wrap program).eval ⟨committed, working⟩).1 =
        outcome.mapError wrap ∧
      (outcome.isOk →
        ((embedding.lift wrap program).eval ⟨committed, working⟩).2 =
          ⟨committed, embedding.replace final.working working⟩) := by
  induction commitFree generalizing working with
  | done result =>
      rw [Program.eval_done, Prod.mk.injEq] at ended
      obtain ⟨rfl, rfl⟩ := ended
      cases result with
      | error failure => exact ⟨rfl, fun isOk => by cases isOk⟩
      | ok value =>
          refine ⟨rfl, fun _ => ?_⟩
          simp only [lift, Program.eval_done, embedding.replace_component]
  | @exec query onFault next _ inductionHypothesis =>
      rw [Program.eval_exec] at ended
      rw [lift, Program.eval_exec, embedding.exec_eq]
      cases answered : D.exec query (embedding.component working) with
      | error fault =>
          simp only [answered, Prod.mk.injEq] at ended
          obtain ⟨rfl, rfl⟩ := ended
          refine ⟨?_, fun isOk => by cases isOk⟩
          simp only [liftAnswer, embedding.fault_toFault]
          rfl
      | ok answer =>
          obtain ⟨given, writes⟩ := answer
          simp only [answered] at ended
          simp only [liftAnswer, embedding.reply_toReply, embedding.applyAll_eq]
          rw [← embedding.component_replace
            (D.applyAll writes (embedding.component working)) working] at ended
          have later := inductionHypothesis given ended
          rw [embedding.replace_replace] at later
          exact later

theorem eval_lift_ok {program : Program D ε α}
    (commitFree : program.CommitFree) {committed working : E.State}
    {value : α} {final : Connection D}
    (ended : program.eval
      ⟨embedding.component committed, embedding.component working⟩ =
        (.ok value, final)) :
    (embedding.lift wrap program).eval ⟨committed, working⟩ =
      (.ok value,
        ⟨committed, embedding.replace final.working working⟩) := by
  obtain ⟨outcome, reached⟩ := eval_lift commitFree ended
  exact Prod.ext outcome (reached rfl)

theorem eval_lift_eq_ok {program : Program D ε α}
    (commitFree : program.CommitFree) {committed working : E.State}
    {value : α} {reached : Connection E}
    (ended : (embedding.lift wrap program).eval ⟨committed, working⟩ =
      (.ok value, reached)) :
    ∃ final, program.eval
        ⟨embedding.component committed, embedding.component working⟩ =
          (.ok value, final) ∧
      reached = ⟨committed, embedding.replace final.working working⟩ := by
  cases ran : program.eval
      ⟨embedding.component committed, embedding.component working⟩ with
  | mk outcome final =>
      obtain ⟨sameOutcome, sameState⟩ := eval_lift commitFree ran
      rw [ended] at sameOutcome sameState
      cases outcome with
      | error failure => cases sameOutcome
      | ok given =>
          cases sameOutcome
          exact ⟨final, rfl, sameState rfl⟩

theorem eval_lift_eq_error {program : Program D ε α}
    (commitFree : program.CommitFree) {connection : Connection E}
    {failure : δ} {reached : Connection E}
    (ended : (embedding.lift wrap program).eval connection =
      (.error failure, reached)) :
    ∃ inner, failure = wrap inner := by
  obtain ⟨committed, working⟩ := connection
  cases ran : program.eval
      ⟨embedding.component committed, embedding.component working⟩ with
  | mk outcome final =>
      obtain ⟨sameOutcome, _⟩ := eval_lift commitFree ran
      rw [ended] at sameOutcome
      cases outcome with
      | error inner => exact ⟨inner, Except.error.inj sameOutcome⟩
      | ok given => cases sameOutcome

end Embedding

end NetworkManager.Transaction
