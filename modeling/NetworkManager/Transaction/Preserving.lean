import NetworkManager.Transaction.Guards

/-!
# Invariants of a program that runs alone

A program preserves an invariant when every state has it in which it commits or
ends.  Its statements may pass through others, and each is judged in the state
that the ones before it have left, so this is about calls one at a time.
-/

namespace NetworkManager.Transaction

variable {D E : Database} {ε δ α β : Type}

namespace Program

/-- Started on `working`, the program commits and ends only in states with the
invariant, unless a statement fails. -/
inductive Preserves (invariant : D.State → Prop) :
    Program D ε α → D.State → Prop
  | done {outcome : Except ε α} {working : D.State} :
      invariant working → Preserves invariant (.done outcome) working
  | exec {query : D.Statement} {onFault : D.Fault → ε}
      {next : D.Reply query → Program D ε α} {working : D.State} :
      (∀ reply writes, D.exec query working = .ok (reply, writes) →
        Preserves invariant (next reply) (D.applyAll writes working)) →
      Preserves invariant (.exec query onFault next) working
  | commit {onFault : D.Fault → ε} {next : Program D ε α}
      {working : D.State} :
      invariant working → Preserves invariant next working →
      Preserves invariant (.commit onFault next) working

namespace Preserves

variable {invariant : D.State → Prop} {program : Program D ε α}
  {working : D.State}

theorem of_statement (query : D.Statement) (onFault : D.Fault → ε)
    (kept : ∀ reply writes, D.exec query working = .ok (reply, writes) →
      invariant (D.applyAll writes working)) :
    (statement query onFault).Preserves invariant working :=
  .exec fun reply writes answered => .done (kept reply writes answered)

/-- A statement, and then the rest, which knows the answer. -/
theorem statement_bind {query : D.Statement} {onFault : D.Fault → ε}
    {next : D.Reply query → Program D ε α}
    (rest : ∀ reply writes, D.exec query working = .ok (reply, writes) →
      (next reply).Preserves invariant (D.applyAll writes working)) :
    (statement query onFault >>= next).Preserves invariant working :=
  .exec rest

theorem bind {first : Program D ε β} {next : β → Program D ε α}
    (preserves : first.Preserves invariant working)
    (rest : ∀ value reached, invariant reached →
      (next value).Preserves invariant reached) :
    (first >>= next).Preserves invariant working := by
  induction preserves with
  | @done outcome working kept =>
      cases outcome with
      | error failure => exact .done kept
      | ok value => exact rest value working kept
  | exec _ inductionHypothesis => exact .exec inductionHypothesis
  | commit kept _ inductionHypothesis => exact .commit kept inductionHypothesis

theorem ofExcept_bind {outcome : Except ε β} {next : β → Program D ε α}
    (kept : invariant working)
    (rest : ∀ value, outcome = .ok value →
      (next value).Preserves invariant working) :
    (ofExcept outcome >>= next).Preserves invariant working := by
  cases outcome with
  | error failure => exact .done kept
  | ok value => exact rest value rfl

theorem check_bind {passed : Bool} {failure : ε}
    {next : Unit → Program D ε α} (kept : invariant working)
    (rest : (next ()).Preserves invariant working) :
    (check passed failure >>= next).Preserves invariant working := by
  cases passed with
  | false => exact .done kept
  | true => exact rest

/-- A loop whose body preserves the invariant. -/
theorem forEach {action : β → Program D ε Unit}
    (each : ∀ element reached, invariant reached →
      (action element).Preserves invariant reached) (elements : List β) :
    ∀ {working : D.State}, invariant working →
      (Program.forEach action elements).Preserves invariant working := by
  induction elements with
  | nil => exact fun kept => .done kept
  | cons element rest inductionHypothesis =>
      intro working kept
      exact (each element working kept).bind fun _ _ stillKept =>
        inductionHypothesis stillKept

theorem handleErrors {wrap : ε → δ} {handler : ε → Program D δ α}
    (preserves : program.Preserves invariant working)
    (handled : ∀ failure reached, invariant reached →
      (handler failure).Preserves invariant reached) :
    (program.handleErrors wrap handler).Preserves invariant working := by
  induction preserves with
  | @done outcome working kept =>
      cases outcome with
      | error failure => exact handled failure working kept
      | ok value => exact .done kept
  | exec _ inductionHypothesis => exact .exec inductionHypothesis
  | commit kept _ inductionHypothesis => exact .commit kept inductionHypothesis

theorem commitsOnly (preserves : program.Preserves invariant working) :
    program.CommitsOnly invariant working := by
  induction preserves with
  | done _ => exact .done _ _
  | exec _ inductionHypothesis => exact .exec inductionHypothesis
  | commit kept _ inductionHypothesis => exact .commit kept inductionHypothesis

end Preserves

/-- Every program preserves what all states have. -/
theorem preserves_any (program : Program D ε α) (working : D.State) :
    program.Preserves (fun _ => True) working := by
  induction program generalizing working with
  | done outcome => exact .done trivial
  | exec query onFault next inductionHypothesis =>
      exact .exec fun reply writes _ => inductionHypothesis reply _
  | commit onFault next inductionHypothesis =>
      exact .commit trivial (inductionHypothesis working)

end Program

/-- What a program preserves in its component, it preserves in the whole. -/
theorem Embedding.preserves_lift (embedding : Embedding D E) {wrap : ε → δ}
    {inner : D.State → Prop} {invariant : E.State → Prop}
    {program : Program D ε α} {working : E.State}
    (preserves : program.Preserves inner (embedding.component working))
    (kept : ∀ part, inner part → invariant (embedding.replace part working)) :
    (embedding.lift wrap program).Preserves invariant working := by
  induction program generalizing working with
  | done outcome =>
      cases preserves with
      | done innerKept =>
          have now := kept _ innerKept
          rw [embedding.replace_component] at now
          cases outcome with
          | error failure => exact .done now
          | ok value => exact .done now
  | exec query onFault next inductionHypothesis =>
      cases preserves with
      | exec rest =>
          constructor
          intro reply writes answered
          rw [embedding.exec_eq] at answered
          cases inComponent : D.exec query (embedding.component working) with
          | error fault =>
              rw [inComponent] at answered
              cases answered
          | ok answer =>
              obtain ⟨given, innerWrites⟩ := answer
              rw [inComponent] at answered
              cases answered
              rw [embedding.reply_toReply, embedding.applyAll_eq]
              apply inductionHypothesis given
              · rw [embedding.component_replace]
                exact rest given innerWrites inComponent
              · intro part isKept
                rw [embedding.replace_replace]
                exact kept part isKept
  | commit onFault next inductionHypothesis =>
      cases preserves with
      | commit innerKept rest =>
          have now := kept _ innerKept
          rw [embedding.replace_component] at now
          exact .commit now (inductionHypothesis rest kept)

end NetworkManager.Transaction
