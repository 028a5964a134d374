import NetworkManager.Transaction.Calls

/-!
# Runs of calls

The states that a sequence of calls leads through, each call under its own
faults.  What a call keeps exactly when it meets a condition, a run keeps
throughout exactly when all of its calls meet the condition.
-/

namespace NetworkManager.Transaction.Client

variable {D : Database} {ε : Type} {client : Client D ε}

/-- A call, and what fails in it. -/
abbrev Attempt (client : Client D ε) : Type :=
  client.Call × List (Option D.Fault)

/-- The state that an attempt leaves. -/
def after (client : Client D ε) (state : D.State) (attempt : client.Attempt) :
    D.State :=
  ((client.program attempt.1).callFaulty attempt.2 state).2

/-- Without faults, the state that the call leaves. -/
theorem after_of_call {state reached : D.State} {call : client.Call}
    {outcome : Except ε (client.Result call)}
    (ended : (client.program call).call state = (outcome, reached)) :
    client.after state (call, []) = reached := congrArg Prod.snd ended

/-- The attempt returns a result. -/
def Succeeds (client : Client D ε) (state : D.State)
    (attempt : client.Attempt) : Prop :=
  ∃ result, ((client.program attempt.1).callFaulty attempt.2 state).1 =
    .ok result

/-- The state that a sequence of attempts leaves. -/
def run (client : Client D ε) (state : D.State)
    (attempts : List client.Attempt) : D.State :=
  attempts.foldl client.after state

@[simp]
theorem run_nil (state : D.State) : client.run state [] = state := rfl

@[simp]
theorem run_cons (state : D.State) (attempt : client.Attempt)
    (rest : List client.Attempt) :
    client.run state (attempt :: rest) =
      client.run (client.after state attempt) rest := rfl

theorem Reachable.run {initial : D.State → Prop} {state : D.State}
    (reachable : client.Reachable initial state)
    (attempts : List client.Attempt) :
    client.Reachable initial (client.run state attempts) := by
  induction attempts generalizing state with
  | nil => exact reachable
  | cons attempt rest inductionHypothesis =>
      exact inductionHypothesis (reachable.call attempt.1 attempt.2)

/-- An attempt that returns no result changes nothing. -/
theorem after_eq_of_not_succeeds {state : D.State} {attempt : client.Attempt}
    (commitsLast : (client.program attempt.1).CommitsLast)
    (failed : ¬client.Succeeds state attempt) :
    client.after state attempt = state := by
  rw [after]
  cases ended : (client.program attempt.1).callFaulty attempt.2 state with
  | mk outcome reached =>
      cases outcome with
      | error failure => exact Program.callFaulty_error commitsLast ended
      | ok result => exact absurd ⟨result, congrArg Prod.fst ended⟩ failed

/-- An attempt that returns a result ran as if nothing had failed. -/
theorem Succeeds.call {state : D.State} {attempt : client.Attempt}
    (succeeds : client.Succeeds state attempt) :
    ∃ result, (client.program attempt.1).call state =
      (.ok result, client.after state attempt) := by
  rcases succeeds with ⟨result, isResult⟩
  exact ⟨result, Program.callFaulty_ok (Prod.ext isResult rfl)⟩

/-- If the attempts of a run keep something exactly when they fit, it holds
throughout the run exactly when each attempt fits. -/
theorem throughout_iff {invariant holds : D.State → Prop}
    {fits : D.State → client.Attempt → Prop} {attempts : List client.Attempt}
    (step : ∀ state, ∀ attempt ∈ attempts, invariant state → holds state →
      invariant (client.after state attempt) ∧
        (holds (client.after state attempt) ↔ fits state attempt))
    {state : D.State} (isInvariant : invariant state) (start : holds state) :
    (∀ earlier, earlier <+: attempts → holds (client.run state earlier)) ↔
      ∀ earlier attempt, earlier ++ [attempt] <+: attempts →
        fits (client.run state earlier) attempt := by
  induction attempts generalizing state with
  | nil => simp [start]
  | cons first rest inductionHypothesis =>
      rcases step state first (List.mem_cons_self ..) isInvariant start with
        ⟨stillInvariant, keeps⟩
      have later : ∀ state, ∀ attempt ∈ rest, invariant state → holds state →
          invariant (client.after state attempt) ∧
            (holds (client.after state attempt) ↔ fits state attempt) :=
        fun state attempt member =>
          step state attempt (List.mem_cons_of_mem first member)
      constructor
      · intro throughout earlier attempt isPrefix
        have next : holds (client.after state first) :=
          throughout [first] (by simp)
        cases earlier with
        | nil =>
            have same : attempt = first := by simpa using isPrefix
            rw [same]
            exact keeps.mp next
        | cons other earlier =>
            rw [List.cons_append, List.cons_prefix_cons] at isPrefix
            rcases isPrefix with ⟨rfl, isPrefix⟩
            refine (inductionHypothesis later stillInvariant next).mp ?_
              earlier attempt isPrefix
            intro following laterPrefix
            exact throughout (other :: following)
              (List.cons_prefix_cons.mpr ⟨rfl, laterPrefix⟩)
      · intro allFit earlier isPrefix
        have next : holds (client.after state first) :=
          keeps.mpr (allFit [] first (by simp))
        cases earlier with
        | nil => exact start
        | cons other earlier =>
            rw [List.cons_prefix_cons] at isPrefix
            rcases isPrefix with ⟨rfl, isPrefix⟩
            refine (inductionHypothesis later stillInvariant next).mpr ?_
              earlier isPrefix
            intro following attempt laterPrefix
            apply allFit (other :: following) attempt
            rw [List.cons_append, List.cons_prefix_cons]
            exact ⟨rfl, laterPrefix⟩

end NetworkManager.Transaction.Client
