import NetworkManager.Transaction.Calls

/-!
# How a call ends

What a call answers and the state it leaves committed belong together.  A rule
for each construct says what has to be shown so that every ending of a program,
under any faults, is one of those that are allowed.
-/

namespace NetworkManager.Transaction.Program

variable {D : Database} {ε α β : Type}

/-- Every ending of the program, started on `working` with `committed` behind
it, is allowed. -/
inductive EndsIn (allowed : Except ε α → D.State → Prop) :
    Program D ε α → D.State → D.State → Prop
  | done {outcome : Except ε α} {committed working : D.State} :
      allowed outcome committed →
      EndsIn allowed (.done outcome) committed working
  | exec {query : D.Statement} {onFault : D.Fault → ε}
      {next : D.Reply query → Program D ε α}
      {committed working : D.State} :
      (∀ fault, allowed (.error (onFault fault)) committed) →
      (∀ reply writes, D.exec query working = .ok (reply, writes) →
        EndsIn allowed (next reply) committed (D.applyAll writes working)) →
      EndsIn allowed (.exec query onFault next) committed working
  | commit {onFault : D.Fault → ε} {next : Program D ε α}
      {committed working : D.State} :
      (∀ fault, allowed (.error (onFault fault)) committed) →
      EndsIn allowed next working working →
      EndsIn allowed (.commit onFault next) committed working

namespace EndsIn

variable {allowed : Except ε α → D.State → Prop} {committed working : D.State}

theorem statement_bind {query : D.Statement} {onFault : D.Fault → ε}
    {next : D.Reply query → Program D ε α}
    (failed : ∀ fault, allowed (.error (onFault fault)) committed)
    (rest : ∀ reply writes, D.exec query working = .ok (reply, writes) →
      (next reply).EndsIn allowed committed (D.applyAll writes working)) :
    (statement query onFault >>= next).EndsIn allowed committed working :=
  .exec failed rest

theorem commitNow_bind {onFault : D.Fault → ε}
    {next : Unit → Program D ε α}
    (failed : ∀ fault, allowed (.error (onFault fault)) committed)
    (rest : (next ()).EndsIn allowed working working) :
    (commitNow onFault >>= next).EndsIn allowed committed working :=
  .commit failed rest

theorem check_bind {passed : Bool} {failure : ε}
    {next : Unit → Program D ε α}
    (refused : passed = false → allowed (.error failure) committed)
    (rest : passed = true → (next ()).EndsIn allowed committed working) :
    (check passed failure >>= next).EndsIn allowed committed working := by
  cases passed with
  | false => exact .done (refused rfl)
  | true => exact rest rfl

theorem ofExcept_bind {outcome : Except ε β} {next : β → Program D ε α}
    (failed : ∀ failure, outcome = .error failure →
      allowed (.error failure) committed)
    (rest : ∀ value, outcome = .ok value →
      (next value).EndsIn allowed committed working) :
    (ofExcept outcome >>= next).EndsIn allowed committed working := by
  cases outcome with
  | error failure => exact .done (failed failure rfl)
  | ok value => exact rest value rfl

/-- Whatever the faults are, the program ends as it is allowed to. -/
theorem evalFaulty {program : Program D ε α}
    (endsIn : program.EndsIn allowed committed working)
    (plan : List (Option D.Fault)) :
    allowed (program.evalFaulty plan ⟨committed, working⟩).1
      (program.evalFaulty plan ⟨committed, working⟩).2.committed := by
  induction endsIn generalizing plan with
  | done allows => exact allows
  | @exec query onFault next committed working failed _ inductionHypothesis =>
      rw [Program.evalFaulty]
      cases plan.head?.join with
      | some fault => exact failed fault
      | none =>
          cases answered : D.exec query working with
          | error fault => exact failed fault
          | ok answer =>
              exact inductionHypothesis answer.1 answer.2 answered plan.tail
  | @commit onFault next committed working failed _ inductionHypothesis =>
      rw [Program.evalFaulty]
      cases plan.head?.join with
      | some fault => exact failed fault
      | none => exact inductionHypothesis plan.tail

theorem callFaulty {program : Program D ε α} {state : D.State}
    (endsIn : program.EndsIn allowed state state)
    (plan : List (Option D.Fault)) :
    allowed (program.callFaulty plan state).1
      (program.callFaulty plan state).2 :=
  endsIn.evalFaulty plan

end EndsIn

end NetworkManager.Transaction.Program
