import NetworkManager.Transaction.Embedding

/-!
# Two runs of one program

Two programs go in step when their statements are answered in turn, commits are
made in related states, and the same failures or related values end them.  Some
failures are excused: one of the programs may fail with them alone.

A program runs alike from two states when it goes in step with itself and ends
with one value.  Then, whatever fails in them, both calls have the same outcome
and leave related states committed, or one of them has an excused failure.
-/

namespace NetworkManager.Transaction

variable {D E : Database} {ε δ α β : Type}

namespace Program

/-- What is left of a program when a statement has been answered. -/
def answered (query : D.Statement) (onFault : D.Fault → ε)
    (next : D.Reply query → Program D ε α) (state : D.State) :
    Program D ε α × D.State :=
  match D.exec query state with
  | .error fault => (.done (.error (onFault fault)), state)
  | .ok (reply, writes) => (next reply, D.applyAll writes state)

private theorem answered_bind (query : D.Statement) (onFault : D.Fault → ε)
    (first : D.Reply query → Program D ε α) (next : α → Program D ε β)
    (state : D.State) :
    answered query onFault (fun reply => first reply >>= next) state =
      ((answered query onFault first state).1 >>= next,
        (answered query onFault first state).2) := by
  unfold answered
  cases D.exec query state with
  | error fault => rfl
  | ok answer => rfl

inductive InStep (related : D.State → D.State → Prop) (excused : ε → Prop)
    (post : α → β → D.State → D.State → Prop) :
    Program D ε α → Program D ε β → D.State → D.State → Prop
  | failed {left right : D.State} (failure : ε) :
      InStep related excused post (.done (.error failure))
        (.done (.error failure)) left right
  | leftFailed {failure : ε} {program : Program D ε β}
      {left right : D.State} : excused failure →
      InStep related excused post (.done (.error failure)) program left right
  | rightFailed {failure : ε} {program : Program D ε α}
      {left right : D.State} : excused failure →
      InStep related excused post program (.done (.error failure)) left right
  | returned {leftValue : α} {rightValue : β} {left right : D.State} :
      post leftValue rightValue left right →
      InStep related excused post (.done (.ok leftValue))
        (.done (.ok rightValue)) left right
  | exec {leftQuery rightQuery : D.Statement} {onFault : D.Fault → ε}
      {leftNext : D.Reply leftQuery → Program D ε α}
      {rightNext : D.Reply rightQuery → Program D ε β}
      {left right : D.State} :
      InStep related excused post
        (answered leftQuery onFault leftNext left).1
        (answered rightQuery onFault rightNext right).1
        (answered leftQuery onFault leftNext left).2
        (answered rightQuery onFault rightNext right).2 →
      InStep related excused post (.exec leftQuery onFault leftNext)
        (.exec rightQuery onFault rightNext) left right
  | commit {onFault : D.Fault → ε} {leftNext : Program D ε α}
      {rightNext : Program D ε β} {left right : D.State} :
      related left right →
      InStep related excused post leftNext rightNext left right →
      InStep related excused post (.commit onFault leftNext)
        (.commit onFault rightNext) left right

namespace InStep

variable {related : D.State → D.State → Prop} {excused : ε → Prop}
  {post : α → β → D.State → D.State → Prop} {left right : D.State}
  {leftProgram : Program D ε α} {rightProgram : Program D ε β}

private theorem mono {weaker : α → β → D.State → D.State → Prop}
    (inStep : InStep related excused post leftProgram rightProgram left right)
    (implies : ∀ leftValue rightValue left right,
      post leftValue rightValue left right →
      weaker leftValue rightValue left right) :
    InStep related excused weaker leftProgram rightProgram left right := by
  induction inStep with
  | failed failure => exact .failed failure
  | leftFailed isExcused => exact .leftFailed isExcused
  | rightFailed isExcused => exact .rightFailed isExcused
  | returned isPost => exact .returned (implies _ _ _ _ isPost)
  | exec _ inductionHypothesis => exact .exec inductionHypothesis
  | commit isRelated _ inductionHypothesis =>
      exact .commit isRelated inductionHypothesis

theorem bind {middle : α → β → D.State → D.State → Prop} {σ τ : Type}
    {post : σ → τ → D.State → D.State → Prop}
    {leftNext : α → Program D ε σ} {rightNext : β → Program D ε τ}
    (first : InStep related excused middle leftProgram rightProgram left right)
    (rest : ∀ leftValue rightValue left right,
      middle leftValue rightValue left right →
      InStep related excused post (leftNext leftValue) (rightNext rightValue)
        left right) :
    InStep related excused post (leftProgram >>= leftNext)
      (rightProgram >>= rightNext) left right := by
  induction first with
  | failed failure => exact .failed failure
  | leftFailed isExcused => exact .leftFailed isExcused
  | rightFailed isExcused => exact .rightFailed isExcused
  | returned isMiddle => exact rest _ _ _ _ isMiddle
  | exec _ inductionHypothesis =>
      rw [exec_bind, exec_bind]
      apply InStep.exec
      rw [answered_bind, answered_bind]
      exact inductionHypothesis
  | commit isRelated _ inductionHypothesis =>
      exact .commit isRelated inductionHypothesis

/-- Statements with an answer each. -/
theorem of_answers {leftQuery rightQuery : D.Statement}
    {onFault : D.Fault → ε} {leftReply : D.Reply leftQuery}
    {rightReply : D.Reply rightQuery} {leftWrites rightWrites : List D.Write}
    {post : D.Reply leftQuery → D.Reply rightQuery → D.State → D.State → Prop}
    (leftAnswer : D.exec leftQuery left = .ok (leftReply, leftWrites))
    (rightAnswer : D.exec rightQuery right = .ok (rightReply, rightWrites))
    (isPost : post leftReply rightReply (D.applyAll leftWrites left)
      (D.applyAll rightWrites right)) :
    InStep related excused post (statement leftQuery onFault)
      (statement rightQuery onFault) left right := by
  apply InStep.exec
  unfold answered
  rw [leftAnswer, rightAnswer]
  exact .returned isPost

/-- Computations whose failures are excused. -/
theorem ofExcept_bind {σ τ : Type} {leftOutcome : Except ε σ}
    {rightOutcome : Except ε τ} {leftNext : σ → Program D ε α}
    {rightNext : τ → Program D ε β}
    (isExcused : ∀ failure, leftOutcome = .error failure ∨
      rightOutcome = .error failure → excused failure)
    (rest : ∀ leftValue rightValue, leftOutcome = .ok leftValue →
      rightOutcome = .ok rightValue →
      InStep related excused post (leftNext leftValue) (rightNext rightValue)
        left right) :
    InStep related excused post (ofExcept leftOutcome >>= leftNext)
      (ofExcept rightOutcome >>= rightNext) left right := by
  cases leftOutcome with
  | error failure => exact .leftFailed (isExcused failure (Or.inl rfl))
  | ok leftValue =>
      cases rightOutcome with
      | error failure => exact .rightFailed (isExcused failure (Or.inr rfl))
      | ok rightValue => exact rest leftValue rightValue rfl rfl

/-- A statement that was not refused, or was refused with an excused failure,
in each of the states. -/
theorem of_statements {leftQuery rightQuery : D.Statement}
    {onFault : D.Fault → ε}
    {post : D.Reply leftQuery → D.Reply rightQuery → D.State → D.State → Prop}
    (isExcused : ∀ fault, D.exec leftQuery left = .error fault ∨
      D.exec rightQuery right = .error fault → excused (onFault fault))
    (isPost : ∀ leftReply leftWrites rightReply rightWrites,
      D.exec leftQuery left = .ok (leftReply, leftWrites) →
      D.exec rightQuery right = .ok (rightReply, rightWrites) →
      post leftReply rightReply (D.applyAll leftWrites left)
        (D.applyAll rightWrites right)) :
    InStep related excused post (statement leftQuery onFault)
      (statement rightQuery onFault) left right := by
  cases leftAnswer : D.exec leftQuery left with
  | error fault =>
      apply InStep.exec
      unfold answered
      rw [leftAnswer]
      exact .leftFailed (isExcused fault (Or.inl leftAnswer))
  | ok leftGiven =>
      cases rightAnswer : D.exec rightQuery right with
      | error fault =>
          apply InStep.exec
          unfold answered
          rw [rightAnswer]
          exact .rightFailed (isExcused fault (Or.inr rightAnswer))
      | ok rightGiven =>
          exact of_answers leftAnswer rightAnswer
            (isPost _ _ _ _ leftAnswer rightAnswer)

private theorem evalFaulty_exec (query : D.Statement) (onFault : D.Fault → ε)
    (next : D.Reply query → Program D ε α) {plan : List (Option D.Fault)}
    (noFault : plan.head?.join = none) (committed working : D.State) :
    ((Program.exec query onFault next).evalFaulty plan
        ⟨committed, working⟩).1 =
      ((answered query onFault next working).1.evalFaulty plan.tail
        ⟨committed, (answered query onFault next working).2⟩).1 ∧
    ((Program.exec query onFault next).evalFaulty plan
        ⟨committed, working⟩).2.committed =
      ((answered query onFault next working).1.evalFaulty plan.tail
        ⟨committed, (answered query onFault next working).2⟩).2.committed := by
  rw [Program.evalFaulty, noFault]
  unfold answered
  dsimp only
  cases D.exec query working with
  | error fault => exact ⟨rfl, rfl⟩
  | ok answer => exact ⟨rfl, rfl⟩

/-- Under the same faults the outcomes are the same and related states are
committed, unless one of the runs has an excused failure. -/
theorem evalFaulty {post : α → α → D.State → D.State → Prop}
    {leftProgram rightProgram : Program D ε α}
    (inStep : InStep related excused post leftProgram rightProgram left right)
    (sameValue : ∀ leftValue rightValue left right,
      post leftValue rightValue left right → leftValue = rightValue)
    (plan : List (Option D.Fault)) {leftCommitted rightCommitted : D.State}
    (before : related leftCommitted rightCommitted) :
    ((leftProgram.evalFaulty plan ⟨leftCommitted, left⟩).1 =
        (rightProgram.evalFaulty plan ⟨rightCommitted, right⟩).1 ∧
      related (leftProgram.evalFaulty plan ⟨leftCommitted, left⟩).2.committed
        (rightProgram.evalFaulty plan ⟨rightCommitted, right⟩).2.committed) ∨
    ∃ failure, excused failure ∧
      ((leftProgram.evalFaulty plan ⟨leftCommitted, left⟩).1 =
          .error failure ∨
        (rightProgram.evalFaulty plan ⟨rightCommitted, right⟩).1 =
          .error failure) := by
  induction inStep generalizing plan leftCommitted rightCommitted with
  | failed failure => exact Or.inl ⟨rfl, before⟩
  | leftFailed isExcused => exact Or.inr ⟨_, isExcused, Or.inl rfl⟩
  | rightFailed isExcused => exact Or.inr ⟨_, isExcused, Or.inr rfl⟩
  | returned isPost =>
      rw [sameValue _ _ _ _ isPost]
      exact Or.inl ⟨rfl, before⟩
  | @exec leftQuery rightQuery onFault leftNext rightNext left right _
      inductionHypothesis =>
      cases planned : plan.head?.join with
      | some fault =>
          rw [Program.evalFaulty, Program.evalFaulty, planned]
          exact Or.inl ⟨rfl, before⟩
      | none =>
          have leftStep := evalFaulty_exec leftQuery onFault leftNext planned
            leftCommitted left
          have rightStep := evalFaulty_exec rightQuery onFault rightNext
            planned rightCommitted right
          rw [leftStep.1, leftStep.2, rightStep.1, rightStep.2]
          exact inductionHypothesis plan.tail before
  | @commit onFault leftNext rightNext left right isRelated _
      inductionHypothesis =>
      cases planned : plan.head?.join with
      | some fault =>
          rw [Program.evalFaulty, Program.evalFaulty, planned]
          exact Or.inl ⟨rfl, before⟩
      | none =>
          rw [Program.evalFaulty, Program.evalFaulty, planned]
          exact inductionHypothesis plan.tail isRelated

private theorem lift_answered (embedding : Embedding D E) (wrap : ε → δ)
    (query : D.Statement) (onFault : D.Fault → ε)
    (next : D.Reply query → Program D ε α) (whole : E.State) :
    answered (embedding.statement query)
        (fun fault => wrap (onFault (embedding.fault fault)))
        (fun reply => embedding.lift wrap (next (embedding.reply reply)))
        whole =
      (embedding.lift wrap
          (answered query onFault next (embedding.component whole)).1,
        embedding.replace
          (answered query onFault next (embedding.component whole)).2
          whole) := by
  unfold answered
  rw [embedding.exec_eq]
  cases D.exec query (embedding.component whole) with
  | error fault =>
      simp only [liftAnswer, embedding.fault_toFault, Embedding.lift,
        embedding.replace_component]
  | ok answer =>
      simp only [liftAnswer, embedding.reply_toReply, embedding.applyAll_eq]

/-- Programs of a component go in step in the whole. -/
theorem lift {embedding : Embedding D E} {wrap : ε → δ}
    {whole : E.State → E.State → Prop} {excusedWhole : δ → Prop}
    {leftWhole rightWhole : E.State}
    (inStep : InStep related excused post leftProgram rightProgram
      (embedding.component leftWhole) (embedding.component rightWhole))
    (isExcused : ∀ failure, excused failure → excusedWhole (wrap failure))
    (frame : ∀ leftPart rightPart, related leftPart rightPart →
      whole (embedding.replace leftPart leftWhole)
        (embedding.replace rightPart rightWhole)) :
    InStep whole excusedWhole
      (fun leftValue rightValue leftAfter rightAfter =>
        ∃ leftPart rightPart, post leftValue rightValue leftPart rightPart ∧
          leftAfter = embedding.replace leftPart leftWhole ∧
          rightAfter = embedding.replace rightPart rightWhole)
      (embedding.lift wrap leftProgram) (embedding.lift wrap rightProgram)
      leftWhole rightWhole := by
  suffices general : ∀ left right, InStep related excused post leftProgram
      rightProgram left right →
      InStep whole excusedWhole
        (fun leftValue rightValue leftAfter rightAfter =>
          ∃ leftPart rightPart, post leftValue rightValue leftPart rightPart ∧
            leftAfter = embedding.replace leftPart leftWhole ∧
            rightAfter = embedding.replace rightPart rightWhole)
        (embedding.lift wrap leftProgram) (embedding.lift wrap rightProgram)
        (embedding.replace left leftWhole)
        (embedding.replace right rightWhole) by
    have started := general _ _ inStep
    rw [embedding.replace_component, embedding.replace_component] at started
    exact started
  clear inStep
  intro left right inStep
  induction inStep with
  | failed failure => exact .failed (wrap failure)
  | leftFailed isFailure => exact .leftFailed (isExcused _ isFailure)
  | rightFailed isFailure => exact .rightFailed (isExcused _ isFailure)
  | returned isPost => exact .returned ⟨_, _, isPost, rfl, rfl⟩
  | exec _ inductionHypothesis =>
      apply InStep.exec
      rw [lift_answered, lift_answered, embedding.component_replace,
        embedding.component_replace, embedding.replace_replace,
        embedding.replace_replace]
      exact inductionHypothesis
  | commit isRelated _ inductionHypothesis =>
      exact .commit (frame _ _ isRelated) inductionHypothesis

end InStep

/-! ## One program from two states -/

/-- The program goes in step with itself and returns one value. -/
def RunsAlike (related : D.State → D.State → Prop) (excused : ε → Prop)
    (post : α → D.State → D.State → Prop) (program : Program D ε α)
    (left right : D.State) : Prop :=
  InStep related excused (fun leftValue rightValue left right =>
    leftValue = rightValue ∧ post leftValue left right) program program left
    right

namespace RunsAlike

variable {related : D.State → D.State → Prop} {excused : ε → Prop}
  {post : α → D.State → D.State → Prop} {left right : D.State}
  {program : Program D ε α}

theorem mono {weaker : α → D.State → D.State → Prop}
    (alike : program.RunsAlike related excused post left right)
    (implies : ∀ value left right, post value left right →
      weaker value left right) :
    program.RunsAlike related excused weaker left right :=
  InStep.mono alike fun leftValue _ left right isPost =>
    ⟨isPost.1, implies leftValue left right isPost.2⟩

theorem bind {middle : β → D.State → D.State → Prop}
    {first : Program D ε β} {next : β → Program D ε α}
    (alike : first.RunsAlike related excused middle left right)
    (rest : ∀ value left right, middle value left right →
      (next value).RunsAlike related excused post left right) :
    (first >>= next).RunsAlike related excused post left right := by
  apply InStep.bind alike
  rintro leftValue rightValue left right ⟨rfl, isMiddle⟩
  exact rest leftValue left right isMiddle

theorem of_pure {value : α} (isPost : post value left right) :
    (pure value : Program D ε α).RunsAlike related excused post left right :=
  .returned ⟨rfl, isPost⟩

/-- A statement with the same answer in both states. -/
theorem of_statement {query : D.Statement} {onFault : D.Fault → ε}
    {post : D.Reply query → D.State → D.State → Prop}
    (same : D.exec query left = D.exec query right)
    (isPost : ∀ reply writes, D.exec query left = .ok (reply, writes) →
      post reply (D.applyAll writes left) (D.applyAll writes right)) :
    (statement query onFault).RunsAlike related excused post left right := by
  cases leftAnswer : D.exec query left with
  | error fault =>
      apply InStep.exec
      unfold answered
      rw [← same, leftAnswer]
      exact .failed (onFault fault)
  | ok answer =>
      rcases answer with ⟨reply, writes⟩
      exact InStep.of_answers leftAnswer (same ▸ leftAnswer)
        ⟨rfl, isPost reply writes leftAnswer⟩

/-- A read with the same answer in both states. -/
theorem of_read {query : D.Statement} {onFault : D.Fault → ε}
    {reply : D.Reply query} {post : D.Reply query → D.State → D.State → Prop}
    (leftRead : D.exec query left = .ok (reply, []))
    (rightRead : D.exec query right = .ok (reply, []))
    (isPost : post reply left right) :
    (statement query onFault).RunsAlike related excused post left right :=
  InStep.of_answers leftRead rightRead ⟨rfl, isPost⟩

/-- A write that is made in both states, where it may be refused in either
with an excused failure. -/
theorem of_excused {query : D.Statement} {onFault : D.Fault → ε}
    {post : D.Reply query → D.State → D.State → Prop}
    (isExcused : ∀ fault, D.exec query left = .error fault ∨
      D.exec query right = .error fault → excused (onFault fault))
    (isPost : ∀ leftReply leftWrites rightReply rightWrites,
      D.exec query left = .ok (leftReply, leftWrites) →
      D.exec query right = .ok (rightReply, rightWrites) →
      leftReply = rightReply ∧ post leftReply (D.applyAll leftWrites left)
        (D.applyAll rightWrites right)) :
    (statement query onFault).RunsAlike related excused post left right :=
  InStep.of_statements isExcused isPost

theorem of_ofExcept {outcome : Except ε α}
    (returned : ∀ value, outcome = .ok value → post value left right) :
    (ofExcept outcome : Program D ε α).RunsAlike related excused post left
      right := by
  cases outcome with
  | error failure => exact .failed failure
  | ok value => exact .returned ⟨rfl, returned value rfl⟩

theorem ofExcept_bind {outcome : Except ε β} {next : β → Program D ε α}
    (rest : ∀ value, outcome = .ok value →
      (next value).RunsAlike related excused post left right) :
    (ofExcept outcome >>= next).RunsAlike related excused post left right := by
  cases outcome with
  | error failure => exact .failed failure
  | ok value => exact rest value rfl

theorem check_bind {passed : Bool} {failure : ε} {next : Unit → Program D ε α}
    (rest : passed = true →
      (next ()).RunsAlike related excused post left right) :
    (check passed failure >>= next).RunsAlike related excused post left
      right := by
  cases passed with
  | false => exact .failed failure
  | true => exact rest rfl

/-- A loop whose turns keep a relation. -/
theorem forEach {action : β → Program D ε Unit}
    {kept : D.State → D.State → Prop} (elements : List β)
    (turn : ∀ element ∈ elements, ∀ left right, kept left right →
      (action element).RunsAlike related excused (fun _ => kept) left right)
    (start : kept left right) :
    (Program.forEach action elements).RunsAlike related excused
      (fun _ => kept) left right := by
  induction elements generalizing left right with
  | nil => exact of_pure start
  | cons element rest inductionHypothesis =>
      apply (turn element (List.mem_cons_self ..) left right start).bind
      intro _ nextLeft nextRight still
      exact inductionHypothesis
        (fun other member => turn other (List.mem_cons_of_mem element member))
        still

theorem callFaulty
    (alike : program.RunsAlike related excused post left right)
    (plan : List (Option D.Fault)) (before : related left right) :
    ((program.callFaulty plan left).1 = (program.callFaulty plan right).1 ∧
      related (program.callFaulty plan left).2
        (program.callFaulty plan right).2) ∨
    ∃ failure, excused failure ∧
      ((program.callFaulty plan left).1 = .error failure ∨
        (program.callFaulty plan right).1 = .error failure) :=
  InStep.evalFaulty alike (fun _ _ _ _ isPost => isPost.1) plan before

/-- A program of a component runs alike in the whole. -/
theorem lift {embedding : Embedding D E} {wrap : ε → δ}
    {whole : E.State → E.State → Prop} {excusedWhole : δ → Prop}
    {leftWhole rightWhole : E.State}
    (alike : program.RunsAlike related excused post
      (embedding.component leftWhole) (embedding.component rightWhole))
    (isExcused : ∀ failure, excused failure → excusedWhole (wrap failure))
    (frame : ∀ leftPart rightPart, related leftPart rightPart →
      whole (embedding.replace leftPart leftWhole)
        (embedding.replace rightPart rightWhole)) :
    (embedding.lift wrap program).RunsAlike whole excusedWhole
      (fun value leftAfter rightAfter =>
        ∃ leftPart rightPart, post value leftPart rightPart ∧
          leftAfter = embedding.replace leftPart leftWhole ∧
          rightAfter = embedding.replace rightPart rightWhole)
      leftWhole rightWhole := by
  apply (InStep.lift alike isExcused frame).mono
  rintro leftValue rightValue _ _ ⟨leftPart, rightPart, isPost, rest⟩
  exact ⟨isPost.1, leftPart, rightPart, isPost.2, rest⟩

end RunsAlike

end Program

end NetworkManager.Transaction
