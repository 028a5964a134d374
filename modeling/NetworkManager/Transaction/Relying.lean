import NetworkManager.Transaction.Interleaving

/-!
# Programs that rely on an invariant

`Program.Locked` lets a statement see anything outside the locked slices.  Here
every state that is committed satisfies `sees`, and every write keeps it, so
that what is read without a lock also says something: not what the row is when
the writes are committed, but that the state it was read from satisfied `sees`.
-/

namespace NetworkManager.Transaction

variable {D : Database} {ε α β : Type}

/-- The writes keep a property, whatever state they are applied to. -/
def Database.Maintains (D : Database) (sees : D.State → Prop)
    (writes : List D.Write) : Prop :=
  ∀ state, sees state → sees (D.applyAll writes state)

section Maintaining

variable {sees : D.State → Prop}

@[simp]
theorem maintains_nil : D.Maintains sees [] :=
  fun _ seen => seen

private theorem Database.Maintains.append {first second : List D.Write}
    (keepsFirst : D.Maintains sees first)
    (keepsSecond : D.Maintains sees second) :
    D.Maintains sees (first ++ second) := by
  intro state seen
  rw [Database.applyAll_append]
  exact keepsSecond _ (keepsFirst state seen)

end Maintaining

namespace Program

/-- How a program runs that has locked `held` and whose writes so far turn the
state it will commit to into `working`.  Each statement sees a state with
`sees` that agrees with `working` on what is locked; its writes are covered by
locks and keep `sees`. -/
inductive Relies (L : Locking D) (sees : D.State → Prop)
    (holds : Program D ε α → D.State → Prop) :
    Program D ε α → List L.Key → D.State → Prop
  | done {outcome : Except ε α} {held : List L.Key} {working : D.State} :
      Relies L sees holds (.done outcome) held working
  | exec {query : D.Statement} {onFault : D.Fault → ε}
      {next : D.Reply query → Program D ε α} {held : List L.Key}
      {working : D.State} :
      (∀ view reply writes, sees view →
        L.Agree (held ++ L.acquires query view) view working →
        D.exec query view = .ok (reply, writes) →
        L.Covers (held ++ L.acquires query view) writes ∧
          D.Maintains sees writes) →
      (∀ view reply writes, sees view →
        L.Agree (held ++ L.acquires query view) view working →
        D.exec query view = .ok (reply, writes) →
        Relies L sees holds (next reply) (held ++ L.acquires query view)
          (D.applyAll writes working)) →
      Relies L sees holds (.exec query onFault next) held working
  | commit {onFault : D.Fault → ε} {next : Program D ε α}
      {held : List L.Key} {working : D.State} :
      next.CommitFree → holds next working →
      Relies L sees holds (.commit onFault next) held working

namespace Relies

variable {L : Locking D} {sees : D.State → Prop}
  {holds : Program D ε α → D.State → Prop} {held : List L.Key}
  {working : D.State}

theorem weaken {weaker : Program D ε α → D.State → Prop}
    {program : Program D ε α}
    (relies : program.Relies L sees holds held working)
    (implies : ∀ rest reached, holds rest reached → weaker rest reached) :
    program.Relies L sees weaker held working := by
  induction relies with
  | done => exact .done
  | exec covered _ inductionHypothesis =>
      exact .exec covered inductionHypothesis
  | commit last now => exact .commit last (implies _ _ now)

/-- What a program holds for each index, it holds for all of them. -/
theorem forall_of {ι : Type} [Nonempty ι]
    {holdsAt : ι → Program D ε α → D.State → Prop} {program : Program D ε α}
    (relies : ∀ index, program.Relies L sees (holdsAt index) held working) :
    program.Relies L sees (fun rest reached => ∀ index,
      holdsAt index rest reached) held working := by
  induction program generalizing held working with
  | done outcome => exact .done
  | exec query onFault next inductionHypothesis =>
      refine .exec ?_ ?_
      · cases relies (Classical.arbitrary ι) with
        | exec covered _ => exact covered
      · intro view reply writes seen agree answered
        apply inductionHypothesis
        intro index
        cases relies index with
        | exec _ later => exact later view reply writes seen agree answered
  | commit onFault next _ =>
      have last : next.CommitFree := by
        cases relies (Classical.arbitrary ι) with
        | commit last _ => exact last
      refine .commit last fun index => ?_
      cases relies index with
      | commit _ now => exact now

/-- A statement that only reads, and takes no lock. -/
theorem read_bind {query : D.Statement} {onFault : D.Fault → ε}
    {next : D.Reply query → Program D ε α}
    (reads : ∀ view reply writes,
      D.exec query view = .ok (reply, writes) → writes = [])
    (free : ∀ view, L.acquires query view = [])
    (rest : ∀ view reply, sees view → D.exec query view = .ok (reply, []) →
      (next reply).Relies L sees holds held working) :
    (statement query onFault >>= next).Relies L sees holds held working := by
  apply Relies.exec
  · intro view reply writes _ _ answered
    rw [reads view reply writes answered]
    exact ⟨Locking.covers_nil _, maintains_nil⟩
  · intro view reply writes seen _ answered
    have noWrites := reads view reply writes answered
    subst noWrites
    rw [free view, List.append_nil]
    exact rest view reply seen answered

theorem check_bind {passed : Bool} {failure : ε}
    {next : Unit → Program D ε α}
    (rest : passed = true →
      (next ()).Relies L sees holds held working) :
    (check passed failure >>= next).Relies L sees holds held working := by
  cases passed with
  | false => exact .done
  | true => exact rest rfl

theorem ofExcept_bind {outcome : Except ε β} {next : β → Program D ε α}
    (rest : ∀ value, outcome = .ok value →
      (next value).Relies L sees holds held working) :
    (ofExcept outcome >>= next).Relies L sees holds held working := by
  cases outcome with
  | error failure => exact .done
  | ok value => exact rest value rfl

end Relies

end Program

namespace System

variable {client : Client D ε} {L : Locking D}

/-- What is left of a session, from any state it might be committed to. -/
structure Relying (sees holds : D.State → Prop) (made : Commit client → Prop)
    (committed : D.State) (session : Session client L) : Prop where
  covers : L.Covers session.held session.pending
  maintains : D.Maintains sees session.pending
  rest : ∀ start, holds start → L.Agree session.held committed start →
    session.rest.Relies L sees
      (fun rest after => holds after ∧ made ⟨session.call, start, after, rest⟩)
      session.held (D.applyAll session.pending start)

/-- No two sessions hold one lock, and each of them relies on the invariant or
will not commit again. -/
structure Steady (sees holds : D.State → Prop) (made : Commit client → Prop)
    (system : System client L) : Prop where
  exclusive : ∀ {left right leftSession rightSession}, left ≠ right →
    system.sessions left = some leftSession →
    system.sessions right = some rightSession →
    ∀ key ∈ leftSession.held, key ∉ rightSession.held
  sessions : ∀ {place session}, system.sessions place = some session →
    session.rest.CommitFree ∨
      Relying sees holds made system.committed session

section Sessions

variable {sees holds : D.State → Prop} {made : Commit client → Prop}
  {committed : D.State} {session : Session client L}

private theorem relying_start {call : client.Call}
    (keeps : ∀ start, holds start → (client.program call).Relies L sees
      (fun rest after => holds after ∧ made ⟨call, start, after, rest⟩) []
      start) : Relying sees holds made committed (Session.start L call) where
  covers := Locking.covers_nil []
  maintains := maintains_nil
  rest start held _ := keeps start held

/-- A statement that is answered leaves the rest of the session relying. -/
theorem Relying.exec (relying : Relying sees holds made committed session)
    (stable : ∀ state, holds state → sees state) (held : holds committed)
    {query : D.Statement} {onFault : D.Fault → ε}
    {next : D.Reply query → Program D ε (client.Result session.call)}
    {reply : D.Reply query} {writes : List D.Write}
    (isNext : session.rest = .exec query onFault next)
    (answered : D.exec query (session.view committed) = .ok (reply, writes)) :
    Relying sees holds made committed
      { session with
        rest := next reply
        pending := session.pending ++ writes
        held := session.held ++
          L.acquires query (session.view committed) } := by
  have seen : sees (session.view committed) :=
    relying.maintains committed (stable committed held)
  have now (start : D.State) (isStart : holds start)
      (agree : L.Agree (session.held ++
        L.acquires query (session.view committed)) committed start) :
      L.Agree (session.held ++ L.acquires query (session.view committed))
          (session.view committed) (D.applyAll session.pending start) ∧
        (Program.exec query onFault next).Relies L sees
          (fun rest after =>
            holds after ∧ made ⟨session.call, start, after, rest⟩)
          session.held (D.applyAll session.pending start) := by
    constructor
    · intro key member
      exact Locking.slice_applyAll_congr _ (agree key member)
    · rw [← isNext]
      exact relying.rest start isStart
        (agree.mono (List.subset_append_left _ _))
  constructor
  case covers =>
    rcases now committed held (fun _ _ => rfl) with ⟨agree, whole⟩
    cases whole with
    | exec covered _ =>
        exact (relying.covers.mono (List.subset_append_left _ _)).append
          (covered _ reply writes seen agree answered).1
  case maintains =>
    rcases now committed held (fun _ _ => rfl) with ⟨agree, whole⟩
    cases whole with
    | exec covered _ =>
        exact relying.maintains.append
          (covered _ reply writes seen agree answered).2
  case rest =>
    intro start isStart agree
    rcases now start isStart agree with ⟨sameView, whole⟩
    cases whole with
    | exec _ later =>
        rw [Database.applyAll_append]
        exact later _ reply writes seen sameView answered

/-- What other sessions commit under their locks does not disturb a session. -/
theorem Relying.of_agree {later : D.State}
    (relying : Relying sees holds made committed session)
    (agree : L.Agree session.held committed later) :
    Relying sees holds made later session where
  covers := relying.covers
  maintains := relying.maintains
  rest start isStart same :=
    relying.rest start isStart fun key member =>
      (agree key member).trans (same key member)

end Sessions

namespace Steady

variable {sees holds : D.State → Prop} {made : Commit client → Prop}
  {system : System client L} {place : Nat}

/-- A session that has just come to a point of its own, with locks that no
other session holds. -/
theorem put {session : Session client L}
    (steady : system.Steady sees holds made)
    (free : system.Free place session.held)
    (isSteady : session.rest.CommitFree ∨
      Relying sees holds made system.committed session) :
    (system.set place (some session)).Steady sees holds made where
  exclusive := by
    intro left right leftSession rightSession different leftFound rightFound
    rcases sessions_set_eq_some leftFound with ⟨rfl, new⟩ | ⟨_, leftOld⟩
    · cases new
      rcases sessions_set_eq_some rightFound with
        ⟨same, _⟩ | ⟨rightOther, rightOld⟩
      · exact absurd same.symm different
      · exact free right rightSession rightOther rightOld
    · rcases sessions_set_eq_some rightFound with ⟨rfl, new⟩ | ⟨_, rightOld⟩
      · cases new
        intro key leftHeld rightHeld
        exact free left leftSession different leftOld key rightHeld leftHeld
      · exact steady.exclusive different leftOld rightOld
  sessions := by
    intro other found isFound
    rcases sessions_set_eq_some isFound with ⟨_, new⟩ | ⟨_, old⟩
    · cases new
      exact isSteady
    · exact steady.sessions old

private theorem close (steady : system.Steady sees holds made) :
    (system.set place none).Steady sees holds made where
  exclusive := by
    intro left right leftSession rightSession different leftFound rightFound
    rcases sessions_set_eq_some leftFound with ⟨_, closed⟩ | ⟨_, leftOld⟩
    · cases closed
    rcases sessions_set_eq_some rightFound with ⟨_, closed⟩ | ⟨_, rightOld⟩
    · cases closed
    exact steady.exclusive different leftOld rightOld
  sessions := by
    intro other session found
    rcases sessions_set_eq_some found with ⟨_, closed⟩ | ⟨_, old⟩
    · cases closed
    · exact steady.sessions old

/-- A commit under locks leaves the other sessions as steady as they were. -/
theorem commit {session : Session client L}
    {next : Program D ε (client.Result session.call)}
    (steady : system.Steady sees holds made)
    (found : system.sessions place = some session)
    (covers : L.Covers session.held session.pending)
    (last : next.CommitFree) (commits : List (Commit client)) :
    (System.mk (session.view system.committed)
      (Function.update system.sessions place (some
        { session with
          origin := next
          rest := next
          pending := []
          held := [] })) commits : System client L).Steady sees holds
        made := by
  have others : (System.mk (session.view system.committed)
      (system.set place none).sessions commits : System client L).Steady sees
        holds made := by
    constructor
    case exclusive => exact steady.close.exclusive
    case sessions =>
      intro other otherSession otherFound
      rcases sessions_set_eq_some otherFound with
        ⟨_, closed⟩ | ⟨different, old⟩
      · cases closed
      · rcases steady.sessions old with free | relying
        · exact Or.inl free
        · right
          apply relying.of_agree
          intro key held
          have notHeld : key ∉ session.held :=
            steady.exclusive different old found key held
          exact (Locking.slice_applyAll covers notHeld _).symm
  have renewed : ((System.mk (session.view system.committed)
      (system.set place none).sessions commits : System client L).set place
        (some
          { session with
            origin := next
            rest := next
            pending := []
            held := [] })).Steady sees holds made :=
    others.put (fun _ _ _ _ _ member => absurd member List.not_mem_nil)
      (Or.inl last)
  simpa only [set, Function.update_idem] using renewed

end Steady

/-- What every call keeps under its locks, relying on an invariant, holds in
every state that any interleaving of calls commits. -/
theorem Reachable.relying {initial sees holds : D.State → Prop}
    {made : Commit client → Prop}
    (start : ∀ state, initial state → holds state)
    (stable : ∀ state, holds state → sees state)
    (keeps : ∀ call state, holds state →
      (client.program call).Relies L sees
        (fun rest after => holds after ∧ made ⟨call, state, after, rest⟩) []
        state)
    {system : System client L} (reachable : System.Reachable initial system) :
    holds system.committed ∧
      ∃ first, initial first ∧
        History made first system.commits system.committed := by
  suffices invariant : system.Steady sees holds made ∧
      holds system.committed ∧ ∃ first, initial first ∧
        History made first system.commits system.committed from
    invariant.2
  induction reachable with
  | @initial state isInitial =>
      refine ⟨⟨?_, ?_⟩, start state isInitial, state, isInitial, .nil⟩
      · intro _ _ _ _ _ found
        cases found
      · intro _ _ found
        cases found
  | @step system next _ taken inductionHypothesis =>
      obtain ⟨steady, held, history⟩ := inductionHypothesis
      cases taken with
      | start place call _ =>
          have relying : Relying sees holds made system.committed
              (Session.start L call) := relying_start (keeps call)
          refine ⟨steady.put ?_ (Or.inr relying), held, history⟩
          intro other session _ _ key member
          exact absurd member List.not_mem_nil
      | close place => exact ⟨steady.close, held, history⟩
      | @exec place session query onFault rest reply writes found isNext free
          answered =>
          refine ⟨steady.put ?_ ?_, held, history⟩
          · intro other otherSession different otherFound key member
            rcases List.mem_append.mp member with old | new
            · exact steady.exclusive (Ne.symm different) found otherFound key
                old
            · exact free other otherSession different otherFound key new
          · rcases steady.sessions found with spent | relying
            · left
              rw [isNext] at spent
              cases spent with
              | exec later => exact later reply
            · exact Or.inr (relying.exec stable held isNext answered)
      | @commit place session onFault rest found isNext =>
          rcases steady.sessions found with spent | relying
          · rw [isNext] at spent
            cases spent
          · have whole := relying.rest system.committed held fun _ _ => rfl
            rw [isNext] at whole
            cases whole with
            | commit last now =>
                refine ⟨steady.commit found relying.covers last _, now.1, ?_⟩
                rcases history with ⟨first, isInitial, past⟩
                exact ⟨first, isInitial, .cons past now.2⟩

end System

end NetworkManager.Transaction
