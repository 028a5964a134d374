import NetworkManager.Transaction.Interleaving

/-!
# Outcomes under way

A program that only reads may see a different state with each statement.  What
it may return is a relation between the states it may see and its outcomes.
-/

namespace NetworkManager.Transaction

variable {D : Database} {ε α β : Type}

namespace Program

/-- The program may end like this when each of its statements sees one of the
given states, and any statement or commit may fail. -/
inductive Returns (sees : D.State → Prop) :
    Program D ε α → Except ε α → Prop
  | done (outcome : Except ε α) : Returns sees (.done outcome) outcome
  | exec {query : D.Statement} {onFault : D.Fault → ε}
      {next : D.Reply query → Program D ε α} {view : D.State}
      {reply : D.Reply query} {writes : List D.Write}
      {outcome : Except ε α} :
      sees view → D.exec query view = .ok (reply, writes) →
      Returns sees (next reply) outcome →
      Returns sees (.exec query onFault next) outcome
  | refused {query : D.Statement} {onFault : D.Fault → ε}
      {next : D.Reply query → Program D ε α} (fault : D.Fault) :
      Returns sees (.exec query onFault next) (.error (onFault fault))
  | commit {onFault : D.Fault → ε} {next : Program D ε α}
      {outcome : Except ε α} :
      Returns sees next outcome → Returns sees (.commit onFault next) outcome
  | lost {onFault : D.Fault → ε} {next : Program D ε α} (fault : D.Fault) :
      Returns sees (.commit onFault next) (.error (onFault fault))

namespace Returns

variable {sees : D.State → Prop}

theorem of_bind_ok {program : Program D ε β} {next : β → Program D ε α}
    {value : α} (returned : (program >>= next).Returns sees (.ok value)) :
    ∃ first, program.Returns sees (.ok first) ∧
      (next first).Returns sees (.ok value) := by
  induction program with
  | done outcome =>
      cases outcome with
      | error failure => cases returned
      | ok first => exact ⟨first, .done _, returned⟩
  | exec query onFault rest inductionHypothesis =>
      cases returned with
      | exec seen answered later =>
          rcases inductionHypothesis _ later with ⟨first, before, after⟩
          exact ⟨first, .exec seen answered before, after⟩
  | commit onFault rest inductionHypothesis =>
      cases returned with
      | commit later =>
          rcases inductionHypothesis later with ⟨first, before, after⟩
          exact ⟨first, .commit before, after⟩

theorem of_statement_ok {query : D.Statement} {onFault : D.Fault → ε}
    {reply : D.Reply query}
    (returned : (statement query onFault).Returns sees (.ok reply)) :
    ∃ view writes, sees view ∧ D.exec query view = .ok (reply, writes) := by
  cases returned with
  | exec seen answered later =>
      cases later
      exact ⟨_, _, seen, answered⟩

end Returns

/-- The program makes one statement, and is done with any answer to it. -/
def AsksOnce : Program D ε α → Prop
  | .done _ => False
  | .exec _ _ next => ∀ reply, ∃ outcome, next reply = .done outcome
  | .commit _ _ => False

/-- Run a program up to its next commit: what is left of it then, and the state
that it commits. -/
def toCommit : Program D ε α → D.State → Option (Program D ε α × D.State)
  | .done _, _ => none
  | .exec query _ next, working =>
      match D.exec query working with
      | .error _ => none
      | .ok (reply, writes) => (next reply).toCommit (D.applyAll writes working)
  | .commit _ next, working => some (next, working)

end Program

namespace History

variable {client : Client D ε} {made : Commit client → Prop}
  {first last : D.State} {commits : List (Commit client)}

/-- A relation that every commit has, and that is passed on, leads from the
first state to all later ones. -/
theorem visits_after {ordered : D.State → D.State → Prop}
    (history : History made first commits last)
    (refl : ∀ state, ordered state state)
    (trans : ∀ left middle right,
      ordered left middle → ordered middle right → ordered left right)
    (ofMade : ∀ commit, made commit → ordered commit.before commit.after) :
    ∀ state, Visits commits last state → ordered first state := by
  induction history with
  | nil =>
      rintro state (isLast | ⟨commit, member, _⟩)
      · rw [isLast]
        exact refl first
      · cases member
  | @cons commit commits _ isMade inductionHypothesis =>
      have toBefore := inductionHypothesis commit.before (Or.inl rfl)
      rintro state (isLast | ⟨other, member, isBefore⟩)
      · rw [isLast]
        exact trans _ _ _ toBefore (ofMade commit isMade)
      · rcases List.mem_cons.mp member with rfl | old
        · rw [← isBefore]
          exact toBefore
        · exact inductionHypothesis state (Or.inr ⟨other, old, isBefore⟩)

end History

namespace System

variable {client : Client D ε} {L : Locking D} {initial : D.State → Prop}

/-- No session has a lock. -/
def Unlocked (system : System client L) : Prop :=
  ∀ place session, system.sessions place = some session → session.held = []

private theorem Unlocked.set_none {system : System client L}
    (unlocked : system.Unlocked) (place : Nat) :
    (system.set place none).Unlocked := by
  intro other waiter isWaiter
  rcases sessions_set_eq_some isWaiter with ⟨_, isClosed⟩ | ⟨_, old⟩
  · cases isClosed
  · exact unlocked other waiter old

/-- The session in a place commits for the first time, and is closed. -/
def closedAt (system : System client L) (place : Nat)
    (commit : Commit client) : System client L where
  committed := commit.after
  sessions := Function.update system.sessions place none
  commits := commit :: system.commits

private theorem Reachable.toCommit_rest {after : D.State} {place : Nat}
    {call : client.Call} {origin next : Program D ε (client.Result call)}
    (rest : Program D ε (client.Result call)) :
    ∀ {system : System client L} {pending : List D.Write} {held : List L.Key},
      Reachable initial (system.set place
        (some ⟨call, origin, rest, pending, held⟩)) →
      (system.set place none).Unlocked →
      rest.toCommit (D.applyAll pending system.committed) =
        some (next, after) →
      Reachable initial
        (system.closedAt place ⟨call, system.committed, after, next⟩) := by
  induction rest with
  | done outcome =>
      intro system pending held _ _ ended
      cases ended
  | exec query onFault following inductionHypothesis =>
      intro system pending held reachable unlocked ended
      rw [Program.toCommit] at ended
      cases answered : D.exec query
          (D.applyAll pending system.committed) with
      | error fault =>
          rw [answered] at ended
          cases ended
      | ok answer =>
          rcases answer with ⟨reply, writes⟩
          rw [answered] at ended
          have taken := reachable.step (.exec place
            ⟨call, origin, .exec query onFault following, pending, held⟩
            (sessions_set_self ..) rfl
            (by
              intro other session different found key _
              have others : (system.set place none).sessions other =
                  some session := by
                simpa [set, different] using found
              rw [unlocked other session others]
              exact List.not_mem_nil)
            answered)
          rw [set_set] at taken
          apply inductionHypothesis reply taken unlocked
          rw [Database.applyAll_append]
          exact ended
  | commit onFault last =>
      intro system pending held reachable _ ended
      cases ended
      have committed := reachable.step (.commit place
        ⟨call, origin, .commit onFault next, pending, held⟩
        (sessions_set_self ..) rfl)
      have closed := committed.step (.close place)
      simpa [set, closedAt, Session.view] using closed

/-- While no other session has a lock, a session runs up to a commit. -/
theorem Reachable.toCommit_amid {system : System client L}
    (reachable : Reachable initial system) (unlocked : system.Unlocked)
    {place : Nat} {session : Session client L}
    (found : system.sessions place = some session) {after : D.State}
    {next : Program D ε (client.Result session.call)}
    (ended : session.rest.toCommit (session.view system.committed) =
      some (next, after)) :
    Reachable initial (system.closedAt place
      ⟨session.call, system.committed, after, next⟩) := by
  have isSet : system.set place (some session) = system := by
    rw [set, ← found, Function.update_eq_self]
  rw [← isSet] at reachable
  exact Reachable.toCommit_rest session.rest reachable
    (unlocked.set_none place) ended

/-- A call that runs alone up to a commit, and is then closed. -/
theorem Reachable.toCommit {state after : D.State}
    {commits : List (Commit client)} {call : client.Call}
    {next : Program D ε (client.Result call)}
    (reachable : Reachable initial (idle state commits : System client L))
    (ended : (client.program call).toCommit state = some (next, after)) :
    Reachable initial (idle after
      (⟨call, state, after, next⟩ :: commits) : System client L) := by
  have started := reachable.step (.start 0 call rfl)
  have closed := started.toCommit_amid ?_ (sessions_set_self _ 0 _) ended
  · simpa [closedAt, set, idle, Session.start] using closed
  · intro other waiter isWaiter
    rcases sessions_set_eq_some isWaiter with ⟨_, isStart⟩ | ⟨_, old⟩
    · cases isStart
      rfl
    · cases old

/-- The session in a place takes its turn, if it comes to a commit. -/
def turn (system : System client L) (place : Nat) : System client L :=
  match system.sessions place with
  | none => system
  | some session =>
      match session.rest.toCommit (session.view system.committed) with
      | none => system
      | some (next, after) =>
          system.closedAt place ⟨session.call, system.committed, after, next⟩

private theorem Reachable.turn {system : System client L}
    (reachable : Reachable initial system) (unlocked : system.Unlocked)
    (place : Nat) : Reachable initial (system.turn place) := by
  rw [System.turn]
  split
  · exact reachable
  · next session found =>
      split
      · exact reachable
      · next following after ended =>
          exact reachable.toCommit_amid unlocked found ended

private theorem Unlocked.turn
    {system : System client L} (unlocked : system.Unlocked)
    (place : Nat) : (system.turn place).Unlocked := by
  rw [System.turn]
  split
  · exact unlocked
  · next session found =>
      split
      · exact unlocked
      · next following after ended =>
          exact unlocked.set_none place

/-- Sessions that are open at once take their turns. -/
theorem Reachable.turns {system : System client L}
    (reachable : Reachable initial system) (unlocked : system.Unlocked)
    (places : List Nat) :
    Reachable initial (places.foldl System.turn system) := by
  induction places generalizing system with
  | nil => exact reachable
  | cons place rest inductionHypothesis =>
      exact inductionHypothesis (reachable.turn unlocked place)
        (unlocked.turn place)

/-- Run calls one after the other, each of them up to its first commit. -/
def commitEach (client : Client D ε) :
    List client.Call → List (Commit client) → D.State →
      List (Commit client) × D.State
  | [], commits, state => (commits, state)
  | call :: rest, commits, state =>
      match (client.program call).toCommit state with
      | none => commitEach client rest commits state
      | some (next, after) =>
          commitEach client rest (⟨call, state, after, next⟩ :: commits) after

theorem Reachable.commitEach {state : D.State}
    {commits : List (Commit client)} (calls : List client.Call)
    (reachable : Reachable initial (idle state commits : System client L)) :
    Reachable initial
      (idle (commitEach client calls commits state).2
        (commitEach client calls commits state).1 : System client L) := by
  induction calls generalizing state commits with
  | nil => exact reachable
  | cons call rest inductionHypothesis =>
      rw [System.commitEach]
      cases ended : (client.program call).toCommit state with
      | none => exact inductionHypothesis reachable
      | some reached => exact inductionHypothesis (reachable.toCommit ended)

/-- A call of one statement has still to make it, or is done. -/
theorem Reachable.asksOnce {system : System client L}
    (reachable : Reachable initial system) {place : Nat}
    {session : Session client L}
    (found : system.sessions place = some session)
    (once : (client.program session.call).AsksOnce) :
    session.rest = client.program session.call ∧ session.pending = [] ∨
      ∃ outcome, session.rest = .done outcome := by
  induction reachable generalizing place session with
  | initial _ => cases found
  | @step system next _ taken inductionHypothesis =>
      cases taken with
      | start other call _ =>
          rcases sessions_set_eq_some found with ⟨_, new⟩ | ⟨_, old⟩
          · cases new
            exact Or.inl ⟨rfl, rfl⟩
          · exact inductionHypothesis old once
      | close other =>
          rcases sessions_set_eq_some found with ⟨_, closed⟩ | ⟨_, old⟩
          · cases closed
          · exact inductionHypothesis old once
      | @exec other asking query onFault rest reply writes isFound isNext =>
          rcases sessions_set_eq_some found with ⟨_, new⟩ | ⟨_, old⟩
          · cases new
            right
            rcases inductionHypothesis isFound once with
              ⟨isProgram, _⟩ | ⟨outcome, isDone⟩
            · rw [← isProgram, isNext] at once
              exact once reply
            · cases isNext.symm.trans isDone
          · exact inductionHypothesis old once
      | @commit other committing onFault rest isFound isNext =>
          have elsewhere : (system.set other (some
              { committing with
                origin := rest
                rest := rest
                pending := []
                held := [] })).sessions place = some session := found
          rcases sessions_set_eq_some elsewhere with ⟨_, new⟩ | ⟨_, old⟩
          · cases new
            rcases inductionHypothesis isFound once with
              ⟨isProgram, _⟩ | ⟨outcome, isDone⟩
            · rw [← isProgram, isNext] at once
              exact once.elim
            · cases isNext.symm.trans isDone
          · exact inductionHypothesis old once

/-- The outcome of a call of one statement is settled when the statement is
answered, by the state that is committed then. -/
theorem Reachable.outcome_of_step {system next : System client L}
    (reachable : Reachable initial system) (taken : Step system next)
    {place : Nat} {session after : Session client L}
    (found : system.sessions place = some session)
    (foundAfter : next.sessions place = some after)
    (once : (client.program session.call).AsksOnce) :
    after = session ∨ ∃ origin pending held,
      after = ⟨session.call, origin,
        .done ((client.program session.call).call system.committed).1, pending,
        held⟩ := by
  cases taken with
  | start other call isFree =>
      rcases sessions_set_eq_some foundAfter with ⟨rfl, _⟩ | ⟨_, old⟩
      · cases isFree.symm.trans found
      · exact Or.inl (Option.some.inj (old.symm.trans found))
  | close other =>
      rcases sessions_set_eq_some foundAfter with ⟨_, closed⟩ | ⟨_, old⟩
      · cases closed
      · exact Or.inl (Option.some.inj (old.symm.trans found))
  | @exec other asking query onFault rest reply writes isFound isNext _
      answered =>
      rcases sessions_set_eq_some foundAfter with ⟨rfl, new⟩ | ⟨_, old⟩
      · cases found.symm.trans isFound
        cases new
        rcases reachable.asksOnce found once with
          ⟨isProgram, nothing⟩ | ⟨outcome, isDone⟩
        · rw [← isProgram, isNext] at once
          rcases once reply with ⟨outcome, isDone⟩
          right
          rw [Session.view, nothing, Database.applyAll_nil] at answered
          have returned :
              ((client.program session.call).call system.committed).1 =
                outcome := by
            rw [← isProgram, isNext, Program.call_eq, Connection.fresh,
              Program.eval_exec_ok answered, isDone, Program.eval_done]
          rw [returned, isDone]
          exact ⟨_, _, _, rfl⟩
        · cases isNext.symm.trans isDone
      · exact Or.inl (Option.some.inj (old.symm.trans found))
  | @commit other committing onFault rest isFound isNext =>
      have elsewhere : (system.set other (some
          { committing with
            origin := rest
            rest := rest
            pending := []
            held := [] })).sessions place = some after := foundAfter
      rcases sessions_set_eq_some elsewhere with ⟨rfl, _⟩ | ⟨_, old⟩
      · cases found.symm.trans isFound
        rcases reachable.asksOnce found once with
          ⟨isProgram, _⟩ | ⟨outcome, isDone⟩
        · rw [← isProgram, isNext] at once
          exact once.elim
        · cases isNext.symm.trans isDone
      · exact Or.inl (Option.some.inj (old.symm.trans found))

end System

end NetworkManager.Transaction
