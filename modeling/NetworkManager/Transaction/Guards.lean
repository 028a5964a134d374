import NetworkManager.Transaction.Embedding

/-!
# Guards

A guard of a program says which writes it may make, and which results it may
return, once its statements have seen some states.  Each statement may see any
state at all, so what a guard allows does not depend on what other programs do
in between.
-/

namespace NetworkManager.Transaction

variable {D E : Database} {ε δ α β γ : Type}

namespace Program

/-- Every write of the program is allowed, and every result is one that it may
return, after the states that its statements have seen, the last one first. -/
inductive Guarded (allowed : List D.State → D.Write → Prop)
    (returns : List D.State → α → Prop) :
    Program D ε α → List D.State → Prop
  | done {outcome : Except ε α} {seen : List D.State} :
      (∀ value, outcome = .ok value → returns seen value) →
      Guarded allowed returns (.done outcome) seen
  | exec {query : D.Statement} {onFault : D.Fault → ε}
      {next : D.Reply query → Program D ε α} {seen : List D.State} :
      (∀ view reply writes, D.exec query view = .ok (reply, writes) →
        ∀ write ∈ writes, allowed (view :: seen) write) →
      (∀ view reply writes, D.exec query view = .ok (reply, writes) →
        Guarded allowed returns (next reply) (view :: seen)) →
      Guarded allowed returns (.exec query onFault next) seen
  | commit {onFault : D.Fault → ε} {next : Program D ε α}
      {seen : List D.State} :
      Guarded allowed returns next seen →
      Guarded allowed returns (.commit onFault next) seen

namespace Guarded

variable {allowed : List D.State → D.Write → Prop}
  {returns : List D.State → α → Prop} {program : Program D ε α}
  {seen : List D.State}

theorem of_pure {value : α} (mayReturn : returns seen value) :
    (pure value : Program D ε α).Guarded allowed returns seen := by
  constructor
  rintro given same
  cases same
  exact mayReturn

theorem of_throw (failure : ε) :
    (throw failure : Program D ε α).Guarded allowed returns seen :=
  .done nofun

/-- A guard may be weakened for all that is seen from now on. -/
theorem mono {weaker : List D.State → D.Write → Prop}
    {mayReturn : List D.State → α → Prop}
    (guarded : program.Guarded allowed returns seen)
    (writes : ∀ later write, seen <:+ later → allowed later write →
      weaker later write)
    (ends : ∀ later value, seen <:+ later → returns later value →
      mayReturn later value) :
    program.Guarded weaker mayReturn seen := by
  suffices weakened : ∀ {now : List D.State}, seen <:+ now →
      program.Guarded allowed returns now →
      program.Guarded weaker mayReturn now from
    weakened List.suffix_rfl guarded
  intro now extended atNow
  clear guarded
  induction atNow with
  | done returned =>
      exact .done fun value ended =>
        ends _ value extended (returned value ended)
  | exec mayWrite _ inductionHypothesis =>
      constructor
      · intro view reply written answered write member
        exact writes _ write (extended.trans (List.suffix_cons view _))
          (mayWrite view reply written answered write member)
      · intro view reply written answered
        exact inductionHypothesis view reply written answered
          (extended.trans (List.suffix_cons view _))
  | commit _ inductionHypothesis =>
      exact .commit (inductionHypothesis extended)

/-- A part, and then the rest, which knows what the part returns. -/
theorem bind {middle : List D.State → β → Prop} {first : Program D ε β}
    {next : β → Program D ε α}
    (guarded : first.Guarded allowed middle seen)
    (rest : ∀ later value, seen <:+ later → middle later value →
      (next value).Guarded allowed returns later) :
    (first >>= next).Guarded allowed returns seen := by
  suffices continued : ∀ {now : List D.State}, seen <:+ now →
      first.Guarded allowed middle now →
      (first >>= next).Guarded allowed returns now from
    continued List.suffix_rfl guarded
  intro now extended atNow
  clear guarded
  induction atNow with
  | @done outcome now returned =>
      cases outcome with
      | error failure => exact .done nofun
      | ok value => exact rest now value extended (returned value rfl)
  | exec mayWrite _ inductionHypothesis =>
      refine .exec mayWrite fun view reply written answered => ?_
      exact inductionHypothesis view reply written answered
        (extended.trans (List.suffix_cons view _))
  | commit _ inductionHypothesis =>
      exact .commit (inductionHypothesis extended)

theorem of_statement (query : D.Statement) (onFault : D.Fault → ε)
    {returns : List D.State → D.Reply query → Prop}
    (mayWrite : ∀ view reply writes, D.exec query view = .ok (reply, writes) →
      ∀ write ∈ writes, allowed (view :: seen) write)
    (ends : ∀ view reply writes, D.exec query view = .ok (reply, writes) →
      returns (view :: seen) reply) :
    (statement query onFault).Guarded allowed returns seen := by
  refine .exec mayWrite fun view reply writes answered => ?_
  exact of_pure (ends view reply writes answered)

theorem check_bind {passed : Bool} {failure : ε}
    {next : Unit → Program D ε α}
    (rest : passed = true → (next ()).Guarded allowed returns seen) :
    (check passed failure >>= next).Guarded allowed returns seen := by
  cases passed with
  | false => exact .done nofun
  | true => exact rest rfl

theorem ofExcept_bind {outcome : Except ε β} {next : β → Program D ε α}
    (rest : ∀ value, outcome = .ok value →
      (next value).Guarded allowed returns seen) :
    (ofExcept outcome >>= next).Guarded allowed returns seen := by
  cases outcome with
  | error failure => exact .done nofun
  | ok value => exact rest value rfl

theorem of_ofExcept {outcome : Except ε α}
    (ends : ∀ value, outcome = .ok value → returns seen value) :
    (ofExcept outcome : Program D ε α).Guarded allowed returns seen :=
  .done ends

theorem of_commitNow (onFault : D.Fault → ε) :
    (commitNow onFault : Program D ε Unit).Guarded allowed
      (fun _ _ => True) seen :=
  .commit (of_pure trivial)

/-- A loop whose body may always do what it does. -/
theorem forEach {action : β → Program D ε Unit} (elements : List β)
    (each : ∀ element ∈ elements, ∀ later, seen <:+ later →
      (action element).Guarded allowed (fun _ _ => True) later) :
    (Program.forEach action elements).Guarded allowed
      (fun _ _ => True) seen := by
  induction elements generalizing seen with
  | nil => exact of_pure trivial
  | cons element rest inductionHypothesis =>
      apply (each element (List.mem_cons_self ..) seen List.suffix_rfl).bind
      intro later _ extended _
      apply inductionHypothesis
      intro other member latest further
      exact each other (List.mem_cons_of_mem element member) latest
        (extended.trans further)

end Guarded

/-- What is allowed by every statement that a program runs guards it. -/
theorem Runs.guarded {runs : D.Statement → Prop} {allowed : D.Write → Prop}
    {program : Program D ε α}
    (writes : ∀ query view reply written, runs query →
      D.exec query view = .ok (reply, written) →
        ∀ write ∈ written, allowed write)
    (isRun : program.Runs runs) (seen : List D.State) :
    program.Guarded (fun _ write => allowed write) (fun _ _ => True) seen := by
  induction isRun generalizing seen with
  | done outcome => exact .done fun _ _ => trivial
  | exec isAllowed _ inductionHypothesis =>
      exact .exec
        (fun view reply written => writes _ view reply written isAllowed)
        fun view reply _ _ => inductionHypothesis reply (view :: seen)
  | commit _ inductionHypothesis => exact .commit (inductionHypothesis seen)

theorem Runs.ofExcept_bind {runs : D.Statement → Prop}
    {outcome : Except ε β} {next : β → Program D ε α}
    (rest : ∀ value, outcome = .ok value → (next value).Runs runs) :
    (ofExcept outcome >>= next).Runs runs := by
  cases outcome with
  | error failure => exact .done _
  | ok value => exact rest value rfl

theorem Runs.forEach {runs : D.Statement → Prop}
    {action : β → Program D ε Unit}
    (each : ∀ element, (action element).Runs runs) (elements : List β) :
    (Program.forEach action elements).Runs runs := by
  induction elements with
  | nil => exact .done _
  | cons element rest inductionHypothesis =>
      exact (each element).bind fun _ => inductionHypothesis

/-- Every program does something. -/
theorem guarded_any (program : Program D ε α) (seen : List D.State) :
    program.Guarded (fun _ _ => True) (fun _ _ => True) seen := by
  induction program generalizing seen with
  | done outcome => exact .done fun _ _ => trivial
  | exec query onFault next inductionHypothesis =>
      exact .exec (fun _ _ _ _ _ _ => trivial) fun view reply _ _ =>
        inductionHypothesis reply (view :: seen)
  | commit onFault next inductionHypothesis =>
      exact .commit (inductionHypothesis seen)

/-- Give the errors that a program ends with to a handler.  A fault still ends
the program. -/
def handleErrors (wrap : ε → δ) (handler : ε → Program D δ α) :
    Program D ε α → Program D δ α
  | .done (.ok value) => .done (.ok value)
  | .done (.error failure) => handler failure
  | .exec query onFault next =>
      .exec query (fun fault => wrap (onFault fault))
        fun reply => (next reply).handleErrors wrap handler
  | .commit onFault next =>
      .commit (fun fault => wrap (onFault fault))
        (next.handleErrors wrap handler)

theorem Guarded.handleErrors {allowed : List D.State → D.Write → Prop}
    {returns : List D.State → α → Prop} {program : Program D ε α}
    {seen : List D.State} {wrap : ε → δ} {handler : ε → Program D δ α}
    (guarded : program.Guarded allowed returns seen)
    (handled : ∀ failure later, (handler failure).Guarded allowed returns later) :
    (program.handleErrors wrap handler).Guarded allowed returns seen := by
  induction guarded with
  | @done outcome seen mayReturn =>
      cases outcome with
      | error failure => exact handled failure seen
      | ok value => exact .of_pure (mayReturn value rfl)
  | exec mayWrite _ inductionHypothesis =>
      exact .exec mayWrite inductionHypothesis
  | commit _ inductionHypothesis => exact .commit inductionHypothesis

/-- A handler knows what has been seen before the program began. -/
theorem Guarded.handleErrors_later {allowed : List D.State → D.Write → Prop}
    {returns : List D.State → α → Prop} {program : Program D ε α}
    {seen : List D.State} {wrap : ε → δ} {handler : ε → Program D δ α}
    (guarded : program.Guarded allowed returns seen)
    (handled : ∀ failure later, seen <:+ later →
      (handler failure).Guarded allowed returns later) :
    (program.handleErrors wrap handler).Guarded allowed returns seen := by
  suffices continued : ∀ {now : List D.State}, seen <:+ now →
      program.Guarded allowed returns now →
      (program.handleErrors wrap handler).Guarded allowed returns now from
    continued List.suffix_rfl guarded
  intro now extended atNow
  clear guarded
  induction atNow with
  | @done outcome now mayReturn =>
      cases outcome with
      | error failure => exact handled failure now extended
      | ok value => exact .of_pure (mayReturn value rfl)
  | exec mayWrite _ inductionHypothesis =>
      refine .exec mayWrite fun view reply written answered => ?_
      exact inductionHypothesis view reply written answered
        (extended.trans (List.suffix_cons view _))
  | commit _ inductionHypothesis =>
      exact .commit (inductionHypothesis extended)

end Program

/-! ## Programs of a component -/

theorem Embedding.runs_lift (embedding : Embedding D E) {wrap : ε → δ}
    {runs : E.Statement → Prop} {program : Program D ε α}
    (isRun : program.Runs fun query => runs (embedding.statement query)) :
    (embedding.lift wrap program).Runs runs := by
  induction isRun with
  | done outcome =>
      cases outcome with
      | error failure => exact .done _
      | ok value => exact .done _
  | exec isAllowed _ inductionHypothesis =>
      exact .exec isAllowed fun reply => inductionHypothesis _
  | commit _ inductionHypothesis => exact .commit inductionHypothesis

/-- A guard of a program in its component guards it in the whole. -/
theorem Embedding.guarded_lift (embedding : Embedding D E) {wrap : ε → δ}
    {inner : List D.State → D.Write → Prop}
    {innerReturns : List D.State → α → Prop}
    {allowed : List E.State → E.Write → Prop}
    {returns : List E.State → α → Prop} {program : Program D ε α}
    {seen : List E.State}
    (guarded : program.Guarded inner innerReturns
      (seen.map embedding.component))
    (writes : ∀ later write, seen <:+ later →
      inner (later.map embedding.component) write →
      allowed later (embedding.toWrite write))
    (ends : ∀ later value, seen <:+ later →
      innerReturns (later.map embedding.component) value →
      returns later value) :
    (embedding.lift wrap program).Guarded allowed returns seen := by
  induction program generalizing seen with
  | done outcome =>
      cases guarded with
      | done mayReturn =>
          cases outcome with
          | error failure => exact .done nofun
          | ok value =>
              exact .of_pure (ends seen value List.suffix_rfl
                (mayReturn value rfl))
  | exec query onFault next inductionHypothesis =>
      cases guarded with
      | exec mayWrite rest =>
          rw [Embedding.lift]
          constructor
          · intro view reply written answered write member
            rw [embedding.exec_eq] at answered
            cases inComponent : D.exec query (embedding.component view) with
            | error fault =>
                rw [inComponent] at answered
                cases answered
            | ok answer =>
                obtain ⟨given, innerWritten⟩ := answer
                rw [inComponent] at answered
                cases answered
                obtain ⟨innerWrite, innerMember, rfl⟩ := List.mem_map.mp member
                exact writes _ innerWrite (List.suffix_cons view seen)
                  (mayWrite _ given innerWritten inComponent innerWrite
                    innerMember)
          · intro view reply written answered
            rw [embedding.exec_eq] at answered
            cases inComponent : D.exec query (embedding.component view) with
            | error fault =>
                rw [inComponent] at answered
                cases answered
            | ok answer =>
                obtain ⟨given, innerWritten⟩ := answer
                rw [inComponent] at answered
                cases answered
                rw [embedding.reply_toReply]
                apply inductionHypothesis given
                · exact rest _ given innerWritten inComponent
                · intro later write extended
                  exact writes later write
                    ((List.suffix_cons view seen).trans extended)
                · intro later value extended
                  exact ends later value
                    ((List.suffix_cons view seen).trans extended)
  | commit onFault next inductionHypothesis =>
      cases guarded with
      | commit rest =>
          exact .commit (inductionHypothesis rest writes ends)

end NetworkManager.Transaction
