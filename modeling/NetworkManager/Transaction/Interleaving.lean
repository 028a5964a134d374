import Mathlib.Logic.Function.Basic
import NetworkManager.Transaction.Calls

/-!
# Interleaved transactions

Any number of sessions run programs against one database, a statement at a
time.  A statement sees the committed state with the session's own pending
writes on top, and waits while another session holds a lock that it takes.  A
session keeps its locks until it commits or is closed.

A lock guards a slice of the state.  A program whose writes are all made under
their locks can be reasoned about as if it ran alone on the state it commits
to, except that a statement may see anything outside the slices it has locked.
`Program.Locked` is that reading of a program, and `System.Reachable.history`
carries it over to every interleaving.
-/

namespace NetworkManager.Transaction

variable {D : Database} {ε α β : Type}

/-- The locks of a database.  A statement acquires locks that depend on the
state it sees; a write touches the slices it may change. -/
structure Locking (D : Database) where
  Key : Type
  acquires : D.Statement → D.State → List Key
  Slice : Key → Type
  slice : (key : Key) → D.State → Slice key
  touches : D.Write → Key → Prop
  slice_apply : ∀ {key write} (state : D.State), ¬touches write key →
    slice key (D.apply write state) = slice key state
  slice_apply_congr : ∀ {key} (write : D.Write) {left right : D.State},
    slice key left = slice key right →
      slice key (D.apply write left) = slice key (D.apply write right)

namespace Locking

variable (L : Locking D)

/-- Two states agree on the slices of some locks. -/
def Agree (keys : List L.Key) (left right : D.State) : Prop :=
  ∀ key ∈ keys, L.slice key left = L.slice key right

/-- Every slice that the writes touch is locked. -/
def Covers (held : List L.Key) (writes : List D.Write) : Prop :=
  ∀ write ∈ writes, ∀ key, L.touches write key → key ∈ held

variable {L}

theorem Agree.mono {fewer more : List L.Key} {left right : D.State}
    (agree : L.Agree more left right) (subset : fewer ⊆ more) :
    L.Agree fewer left right :=
  fun key member => agree key (subset member)

theorem Covers.mono {fewer more : List L.Key} {writes : List D.Write}
    (covers : L.Covers fewer writes) (subset : fewer ⊆ more) :
    L.Covers more writes :=
  fun write member key touched => subset (covers write member key touched)

theorem Covers.append {held : List L.Key} {first second : List D.Write}
    (coversFirst : L.Covers held first) (coversSecond : L.Covers held second) :
    L.Covers held (first ++ second) := by
  intro write member
  rcases List.mem_append.mp member with early | late
  · exact coversFirst write early
  · exact coversSecond write late

@[simp]
theorem covers_nil (held : List L.Key) : L.Covers held [] := by
  intro write member
  simp at member

/-- Writes under other locks leave a slice as it was. -/
theorem slice_applyAll {held : List L.Key} {key : L.Key}
    {writes : List D.Write} (covers : L.Covers held writes)
    (notHeld : key ∉ held) (state : D.State) :
    L.slice key (D.applyAll writes state) = L.slice key state := by
  induction writes generalizing state with
  | nil => rfl
  | cons write rest inductionHypothesis =>
      have untouched : ¬L.touches write key := fun touched =>
        notHeld (covers write (List.mem_cons_self ..) key touched)
      have later : L.Covers held rest := fun other member =>
        covers other (List.mem_cons_of_mem write member)
      rw [Database.applyAll_cons, inductionHypothesis later,
        L.slice_apply state untouched]

theorem slice_applyAll_congr {key : L.Key} (writes : List D.Write)
    {left right : D.State} (same : L.slice key left = L.slice key right) :
    L.slice key (D.applyAll writes left) =
      L.slice key (D.applyAll writes right) := by
  induction writes generalizing left right with
  | nil => exact same
  | cons write rest inductionHypothesis =>
      exact inductionHypothesis (L.slice_apply_congr write same)

end Locking

namespace Program

/-- How a program runs whose transaction has locked `held` and whose writes so
far turn the state it will commit to into `working`.  Each statement may see
any state that agrees with `working` on what is locked; `atEnd` holds of every
outcome, and `holds` of what is left at every commit and of the state that is
committed. -/
inductive Locked (L : Locking D)
    (atEnd : Except ε α → List L.Key → D.State → Prop)
    (holds : Program D ε α → D.State → Prop) :
    Program D ε α → List L.Key → D.State → Prop
  | done {outcome : Except ε α} {held : List L.Key} {working : D.State} :
      atEnd outcome held working →
      Locked L atEnd holds (.done outcome) held working
  | exec {query : D.Statement} {onFault : D.Fault → ε}
      {next : D.Reply query → Program D ε α} {held : List L.Key}
      {working : D.State} :
      (∀ view reply writes,
        L.Agree (held ++ L.acquires query view) view working →
        D.exec query view = .ok (reply, writes) →
        L.Covers (held ++ L.acquires query view) writes) →
      (∀ view reply writes,
        L.Agree (held ++ L.acquires query view) view working →
        D.exec query view = .ok (reply, writes) →
        Locked L atEnd holds (next reply) (held ++ L.acquires query view)
          (D.applyAll writes working)) →
      Locked L atEnd holds (.exec query onFault next) held working
  | commit {onFault : D.Fault → ε} {next : Program D ε α}
      {held : List L.Key} {working : D.State} :
      next.CommitFree → holds next working →
      Locked L atEnd holds (.commit onFault next) held working

namespace Locked

variable {L : Locking D} {holds : Program D ε α → D.State → Prop}
  {atEnd : Except ε α → List L.Key → D.State → Prop}
  {held : List L.Key} {working : D.State}

theorem weaken {weaker : Except ε α → List L.Key → D.State → Prop}
    {program : Program D ε α}
    (locked : program.Locked L atEnd holds held working)
    (implies : ∀ outcome reachedHeld reached,
      atEnd outcome reachedHeld reached →
      weaker outcome reachedHeld reached) :
    program.Locked L weaker holds held working := by
  induction locked with
  | done ended => exact .done (implies _ _ _ ended)
  | exec covered _ inductionHypothesis =>
      exact .exec covered inductionHypothesis
  | commit last now => exact .commit last now

theorem weaken_holds {weaker : Program D ε α → D.State → Prop}
    {program : Program D ε α}
    (locked : program.Locked L atEnd holds held working)
    (implies : ∀ rest reached, holds rest reached → weaker rest reached) :
    program.Locked L atEnd weaker held working := by
  induction locked with
  | done ended => exact .done ended
  | exec covered _ inductionHypothesis =>
      exact .exec covered inductionHypothesis
  | commit last now => exact .commit last (implies _ _ now)

/-- A part without a commit, and then the rest. -/
theorem bind {atMiddle : Except ε β → List L.Key → D.State → Prop}
    {program : Program D ε β} {next : β → Program D ε α}
    (first : program.Locked L atMiddle (fun _ _ => False) held working)
    (failed : ∀ failure reachedHeld reached,
      atMiddle (.error failure) reachedHeld reached →
      atEnd (.error failure) reachedHeld reached)
    (rest : ∀ value reachedHeld reached,
      atMiddle (.ok value) reachedHeld reached →
      (next value).Locked L atEnd holds reachedHeld reached) :
    (program >>= next).Locked L atEnd holds held working := by
  induction first with
  | @done outcome held working ended =>
      cases outcome with
      | error failure => exact .done (failed failure held working ended)
      | ok value => exact rest value held working ended
  | exec covered _ inductionHypothesis =>
      exact .exec covered inductionHypothesis
  | commit _ never => exact never.elim

theorem statement_bind {query : D.Statement} {onFault : D.Fault → ε}
    {next : D.Reply query → Program D ε α}
    (covered : ∀ view reply writes,
      L.Agree (held ++ L.acquires query view) view working →
      D.exec query view = .ok (reply, writes) →
      L.Covers (held ++ L.acquires query view) writes)
    (rest : ∀ view reply writes,
      L.Agree (held ++ L.acquires query view) view working →
      D.exec query view = .ok (reply, writes) →
      (next reply).Locked L atEnd holds (held ++ L.acquires query view)
        (D.applyAll writes working)) :
    (statement query onFault >>= next).Locked L atEnd holds held working :=
  .exec covered rest

theorem check_bind {passed : Bool} {failure : ε}
    {next : Unit → Program D ε α}
    (failed : passed = false → atEnd (.error failure) held working)
    (rest : passed = true → (next ()).Locked L atEnd holds held working) :
    (check passed failure >>= next).Locked L atEnd holds held working := by
  cases passed with
  | false => exact .done (failed rfl)
  | true => exact rest rfl

theorem ofExcept_bind {outcome : Except ε β} {next : β → Program D ε α}
    (failed : ∀ failure, outcome = .error failure →
      atEnd (.error failure) held working)
    (rest : ∀ value, outcome = .ok value →
      (next value).Locked L atEnd holds held working) :
    (ofExcept outcome >>= next).Locked L atEnd holds held working := by
  cases outcome with
  | error failure => exact .done (failed failure rfl)
  | ok value => exact rest value rfl

end Locked

/-- Every statement of the program is an allowed one, and it never commits. -/
inductive Uses (allowed : D.Statement → Prop) : Program D ε α → Prop
  | done (outcome : Except ε α) : Uses allowed (.done outcome)
  | exec {query : D.Statement} {onFault : D.Fault → ε}
      {next : D.Reply query → Program D ε α} :
      allowed query → (∀ reply, Uses allowed (next reply)) →
      Uses allowed (.exec query onFault next)

namespace Uses

variable {allowed : D.Statement → Prop}

theorem bind {program : Program D ε β} {next : β → Program D ε α}
    (first : program.Uses allowed)
    (rest : ∀ value, (next value).Uses allowed) :
    (program >>= next).Uses allowed := by
  induction first with
  | done outcome =>
      cases outcome with
      | error failure => exact .done _
      | ok value => exact rest value
  | exec isAllowed _ inductionHypothesis =>
      exact .exec isAllowed inductionHypothesis

theorem forEach {action : β → Program D ε Unit}
    (each : ∀ element, (action element).Uses allowed) :
    ∀ elements : List β, (Program.forEach action elements).Uses allowed
  | [] => .done _
  | element :: rest => (each element).bind fun _ => forEach each rest

theorem mono {more : D.Statement → Prop} {program : Program D ε α}
    (uses : program.Uses allowed)
    (isAllowed : ∀ query, allowed query → more query) : program.Uses more := by
  induction uses with
  | done outcome => exact .done outcome
  | exec given _ inductionHypothesis =>
      exact .exec (isAllowed _ given) inductionHypothesis

theorem statement {query : D.Statement} (onFault : D.Fault → ε)
    (isAllowed : allowed query) :
    (Program.statement query onFault).Uses allowed :=
  .exec isAllowed fun _ => .done _

theorem ofExcept (outcome : Except ε α) :
    (Program.ofExcept outcome : Program D ε α).Uses allowed := by
  cases outcome with
  | ok value => exact .done _
  | error failure => exact .done _

/-- What the allowed statements keep, without touching a slice that is not
locked yet, the whole program keeps. -/
theorem locked {L : Locking D} {keeps : D.State → Prop}
    {program : Program D ε α} {held : List L.Key} {working : D.State}
    (uses : program.Uses allowed)
    (harmless : ∀ query view reply writes, allowed query →
      D.exec query view = .ok (reply, writes) →
      L.Covers held writes ∧
        ∀ state, keeps state → keeps (D.applyAll writes state))
    (kept : keeps working) :
    program.Locked L
      (fun _ reachedHeld reached => held ⊆ reachedHeld ∧ keeps reached)
      (fun _ _ => False) held working := by
  suffices extended : ∀ {more : List L.Key}, held ⊆ more →
      program.Locked L
        (fun _ reachedHeld reached => held ⊆ reachedHeld ∧ keeps reached)
        (fun _ _ => False) more working from
    extended (List.Subset.refl held)
  induction uses generalizing working with
  | done outcome =>
      intro more subset
      exact .done ⟨subset, kept⟩
  | @exec query onFault next isAllowed _ inductionHypothesis =>
      intro more subset
      constructor
      · intro view reply writes _ answered
        have covered := (harmless query view reply writes isAllowed answered).1
        exact covered.mono
          (List.Subset.trans subset (List.subset_append_left _ _))
      · intro view reply writes _ answered
        have keeping := (harmless query view reply writes isAllowed answered).2
        exact inductionHypothesis reply (keeping working kept)
          (fun key member => List.mem_append_left _ (subset member))

end Uses

end Program

/-! ## Systems of sessions -/

/-- A call under way: the program of its open transaction, what is left of it,
the writes that are not committed yet and the locks it holds. -/
structure Session (client : Client D ε) (L : Locking D) where
  call : client.Call
  origin : Program D ε (client.Result call)
  rest : Program D ε (client.Result call)
  pending : List D.Write
  held : List L.Key

def Session.start {client : Client D ε} (L : Locking D)
    (call : client.Call) : Session client L :=
  ⟨call, client.program call, client.program call, [], []⟩

/-- What the statements of a session see. -/
def Session.view {client : Client D ε} {L : Locking D}
    (session : Session client L) (committed : D.State) : D.State :=
  D.applyAll session.pending committed

/-- A commit that took place, and what the call had left to do. -/
structure Commit (client : Client D ε) where
  call : client.Call
  before : D.State
  after : D.State
  rest : Program D ε (client.Result call)

/-- The committed state, the open sessions, and the commits so far, the last
one first. -/
structure System (client : Client D ε) (L : Locking D) where
  committed : D.State
  sessions : Nat → Option (Session client L)
  commits : List (Commit client)

namespace System

variable {client : Client D ε} {L : Locking D}

def initial (client : Client D ε) (L : Locking D) (state : D.State) :
    System client L :=
  ⟨state, fun _ => none, []⟩

/-- Put a session in a place, or close the one there. -/
def set (system : System client L) (place : Nat)
    (session : Option (Session client L)) : System client L :=
  { system with
    sessions := Function.update system.sessions place session }

/-- The session in a place may take some locks. -/
def Free (system : System client L) (place : Nat)
    (keys : List L.Key) : Prop :=
  ∀ other session, other ≠ place → system.sessions other = some session →
    ∀ key ∈ keys, key ∉ session.held

/-- What can happen next.  A session can be closed at any time: its call has
returned, a statement or the commit has failed, or the client is gone. -/
inductive Step : System client L → System client L → Prop
  | start {system : System client L} (place : Nat) (call : client.Call) :
      system.sessions place = none →
      Step system (system.set place (some (Session.start L call)))
  | exec {system : System client L} (place : Nat)
      (session : Session client L) {query : D.Statement}
      {onFault : D.Fault → ε}
      {next : D.Reply query → Program D ε (client.Result session.call)}
      {reply : D.Reply query} {writes : List D.Write} :
      system.sessions place = some session →
      session.rest = .exec query onFault next →
      system.Free place
        (L.acquires query (session.view system.committed)) →
      D.exec query (session.view system.committed) = .ok (reply, writes) →
      Step system (system.set place (some
        { session with
          rest := next reply
          pending := session.pending ++ writes
          held := session.held ++
            L.acquires query (session.view system.committed) }))
  | commit {system : System client L} (place : Nat)
      (session : Session client L) {onFault : D.Fault → ε}
      {next : Program D ε (client.Result session.call)} :
      system.sessions place = some session →
      session.rest = .commit onFault next →
      Step system
        { committed := session.view system.committed
          sessions := Function.update system.sessions place (some
            { session with
              origin := next, rest := next, pending := [], held := [] })
          commits :=
            ⟨session.call, system.committed,
              session.view system.committed, next⟩ :: system.commits }
  | close {system : System client L} (place : Nat) :
      Step system (system.set place none)

/-- The systems that sessions reach from an idle database. -/
inductive Reachable (initial : D.State → Prop) : System client L → Prop
  | initial {state : D.State} : initial state →
      Reachable initial (System.initial client L state)
  | step {system next : System client L} :
      Reachable initial system → Step system next → Reachable initial next

end System

/-- From the state `start`, and with arbitrary answers outside the locked
slices, a program comes to `rest` with these writes and these locks. -/
inductive Replays (L : Locking D) (start : D.State)
    (origin : Program D ε α) :
    Program D ε α → List D.Write → List L.Key → Prop
  | start : Replays L start origin origin [] []
  | exec {query : D.Statement} {onFault : D.Fault → ε}
      {next : D.Reply query → Program D ε α} {pending : List D.Write}
      {held : List L.Key} (view : D.State) {reply : D.Reply query}
      {writes : List D.Write} :
      Replays L start origin (.exec query onFault next) pending held →
      L.Agree (held ++ L.acquires query view) view
        (D.applyAll pending start) →
      D.exec query view = .ok (reply, writes) →
      Replays L start origin (next reply) (pending ++ writes)
        (held ++ L.acquires query view)

namespace Replays

variable {L : Locking D} {start other : D.State}
  {origin rest : Program D ε α} {pending : List D.Write} {held : List L.Key}

/-- A replay is possible from any state that agrees on what is locked. -/
theorem of_agree (replays : Replays L start origin rest pending held)
    (agree : L.Agree held start other) :
    Replays L other origin rest pending held := by
  induction replays with
  | start => exact .start
  | exec view _ seen answered inductionHypothesis =>
      have earlier := inductionHypothesis
        (agree.mono (List.subset_append_left _ _))
      refine .exec view earlier (fun key member => ?_) answered
      rw [seen key member]
      exact Locking.slice_applyAll_congr _ (agree key member)

/-- What a locked program says of its whole run holds of what is left of it. -/
theorem locked {atEnd : Except ε α → List L.Key → D.State → Prop}
    {holds : Program D ε α → D.State → Prop}
    (replays : Replays L start origin rest pending held)
    (whole : origin.Locked L atEnd holds [] start) :
    rest.Locked L atEnd holds held (D.applyAll pending start) := by
  induction replays with
  | start => exact whole
  | exec view _ seen answered inductionHypothesis =>
      cases inductionHypothesis with
      | exec covered later =>
          rw [Database.applyAll_append]
          exact later view _ _ seen answered

private theorem covers {atEnd : Except ε α → List L.Key → D.State → Prop}
    {holds : Program D ε α → D.State → Prop}
    (replays : Replays L start origin rest pending held)
    (whole : origin.Locked L atEnd holds [] start) :
    L.Covers held pending := by
  induction replays with
  | start => exact Locking.covers_nil []
  | exec view earlier seen answered inductionHypothesis =>
      cases earlier.locked whole with
      | exec covered later =>
          exact (inductionHypothesis.mono
            (List.subset_append_left _ _)).append
              (covered view _ _ seen answered)

/-- What is left of a program without a commit has none. -/
theorem commitFree (replays : Replays L start origin rest pending held)
    (commitFree : origin.CommitFree) : rest.CommitFree := by
  induction replays with
  | start => exact commitFree
  | exec view earlier seen answered inductionHypothesis =>
      cases inductionHypothesis with
      | exec later => exact later _

end Replays

/-! ## Every interleaving -/

/-- The commits lead from one state to another, and each is one of these. -/
inductive History {client : Client D ε} (made : Commit client → Prop)
    (first : D.State) : List (Commit client) → D.State → Prop
  | nil : History made first [] first
  | cons {commit : Commit client} {commits : List (Commit client)} :
      History made first commits commit.before → made commit →
      History made first (commit :: commits) commit.after

/-- A state that was committed at some time. -/
def History.Visits {client : Client D ε} (commits : List (Commit client))
    (last state : D.State) : Prop :=
  state = last ∨ ∃ commit ∈ commits, commit.before = state

namespace History

variable {client : Client D ε} {made : Commit client → Prop}
  {first last : D.State} {commits : List (Commit client)}

/-- A relation that every commit has, and that is passed on, orders all the
states that were committed at some time. -/
theorem visits_ordered {ordered : D.State → D.State → Prop}
    (history : History made first commits last)
    (refl : ∀ state, ordered state state)
    (trans : ∀ left middle right,
      ordered left middle → ordered middle right → ordered left right)
    (ofMade : ∀ commit, made commit → ordered commit.before commit.after) :
    (∀ state, Visits commits last state → ordered state last) ∧
      ∀ left right, Visits commits last left → Visits commits last right →
        ordered left right ∨ ordered right left := by
  induction history with
  | nil =>
      have isFirst : ∀ state,
          Visits ([] : List (Commit client)) first state → state = first := by
        rintro state (isLast | ⟨commit, member, _⟩)
        · exact isLast
        · cases member
      constructor
      · intro state visited
        rw [isFirst state visited]
        exact refl first
      · intro left right leftVisited rightVisited
        rw [isFirst left leftVisited, isFirst right rightVisited]
        exact Or.inl (refl first)
  | @cons commit commits _ isMade inductionHypothesis =>
      rcases inductionHypothesis with ⟨toBefore, ordering⟩
      have step := ofMade commit isMade
      have earlier : ∀ state, Visits (commit :: commits) commit.after state →
          state = commit.after ∨ Visits commits commit.before state := by
        rintro state (isLast | ⟨other, member, isBefore⟩)
        · exact Or.inl isLast
        · rcases List.mem_cons.mp member with rfl | old
          · exact Or.inr (Or.inl isBefore.symm)
          · exact Or.inr (Or.inr ⟨other, old, isBefore⟩)
      have toAfter : ∀ state, Visits (commit :: commits) commit.after state →
          ordered state commit.after := by
        intro state visited
        rcases earlier state visited with rfl | old
        · exact refl _
        · exact trans state _ _ (toBefore state old) step
      refine ⟨toAfter, ?_⟩
      intro left right leftVisited rightVisited
      rcases earlier left leftVisited with rfl | leftOld
      · exact Or.inr (toAfter right rightVisited)
      · rcases earlier right rightVisited with rfl | rightOld
        · exact Or.inl (toAfter left leftVisited)
        · exact ordering left right leftOld rightOld

theorem mono {weaker : Commit client → Prop}
    (history : History made first commits last)
    (implies : ∀ commit, made commit → weaker commit) :
    History weaker first commits last := by
  induction history with
  | nil => exact .nil
  | cons _ isMade inductionHypothesis =>
      exact .cons inductionHypothesis (implies _ isMade)

/-- What every commit keeps holds in the end. -/
theorem invariant (holds : D.State → Prop)
    (history : History made first commits last) (start : holds first)
    (step : ∀ commit : Commit client, made commit → holds commit.before →
      holds commit.after) : holds last := by
  induction history with
  | nil => exact start
  | cons _ isMade inductionHypothesis =>
      exact step _ isMade inductionHypothesis

theorem made_of_mem (history : History made first commits last)
    {commit : Commit client} (member : commit ∈ commits) : made commit := by
  induction history with
  | nil => cases member
  | cons _ isMade inductionHypothesis =>
      rcases List.mem_cons.mp member with rfl | old
      · exact isMade
      · exact inductionHypothesis old

/-- What came after a commit starts from the state it committed. -/
theorem after_commit {newer older : List (Commit client)}
    {commit : Commit client}
    (history : History made first (newer ++ commit :: older) last) :
    History made commit.after newer last := by
  induction newer generalizing last with
  | nil =>
      cases history with
      | cons _ _ => exact .nil
  | cons next rest inductionHypothesis =>
      cases history with
      | cons earlier isMade => exact .cons (inductionHypothesis earlier) isMade

end History

namespace System

variable {client : Client D ε} {L : Locking D}

/-- Every call keeps `holds`, and makes commits like these, whatever other
sessions do in between. -/
def Keeps (client : Client D ε) (L : Locking D) (holds : D.State → Prop)
    (made : Commit client → Prop) : Prop :=
  ∀ call state, holds state →
    (client.program call).Locked L (fun _ _ _ => True)
      (fun rest after => holds after ∧ made ⟨call, state, after, rest⟩) []
      state

/-- No two sessions hold one lock, and each of them replays from the committed
state. -/
structure Sound (system : System client L) : Prop where
  exclusive : ∀ {left right leftSession rightSession}, left ≠ right →
    system.sessions left = some leftSession →
    system.sessions right = some rightSession →
    ∀ key ∈ leftSession.held, key ∉ rightSession.held
  replays : ∀ {place session}, system.sessions place = some session →
    Replays L system.committed session.origin session.rest session.pending
      session.held
  origin : ∀ {place session}, system.sessions place = some session →
    session.origin = client.program session.call ∨ session.origin.CommitFree

private theorem sound_initial (state : D.State) :
    (System.initial client L state).Sound where
  exclusive := by
    intro left right leftSession rightSession _ leftFound
    simp [System.initial] at leftFound
  replays := by
    intro place session found
    simp [System.initial] at found
  origin := by
    intro place session found
    simp [System.initial] at found

theorem sessions_set_eq_some {system : System client L} {place other : Nat}
    {session : Option (Session client L)} {found : Session client L}
    (isFound : (system.set place session).sessions other = some found) :
    (other = place ∧ session = some found) ∨
      (other ≠ place ∧ system.sessions other = some found) := by
  by_cases same : other = place
  · subst same
    exact Or.inl ⟨rfl, by simpa [set] using isFound⟩
  · exact Or.inr ⟨same, by simpa [set, same] using isFound⟩

namespace Sound

variable {system : System client L} {place : Nat}

private theorem close
    (sound : system.Sound) : (system.set place none).Sound where
  exclusive := by
    intro left right leftSession rightSession different leftFound rightFound
    rcases sessions_set_eq_some leftFound with ⟨_, closed⟩ | ⟨_, leftOld⟩
    · simp at closed
    rcases sessions_set_eq_some rightFound with ⟨_, closed⟩ | ⟨_, rightOld⟩
    · simp at closed
    exact sound.exclusive different leftOld rightOld
  replays := by
    intro other session found
    rcases sessions_set_eq_some found with ⟨_, closed⟩ | ⟨_, old⟩
    · simp at closed
    · exact sound.replays old
  origin := by
    intro other session found
    rcases sessions_set_eq_some found with ⟨_, closed⟩ | ⟨_, old⟩
    · simp at closed
    · exact sound.origin old

/-- A session that replays, with locks that no other session holds. -/
theorem put {session : Session client L} (sound : system.Sound)
    (free : system.Free place session.held)
    (replays : Replays L system.committed session.origin session.rest
      session.pending session.held)
    (origin : session.origin = client.program session.call ∨
      session.origin.CommitFree) :
    (system.set place (some session)).Sound where
  exclusive := by
    intro left right leftSession rightSession different leftFound rightFound
    rcases sessions_set_eq_some leftFound with ⟨rfl, new⟩ | ⟨_, leftOld⟩
    · cases new
      rcases sessions_set_eq_some rightFound with
        ⟨same, _⟩ | ⟨rightOther, rightOld⟩
      · exact absurd same.symm different
      · exact free right rightSession rightOther rightOld
    · rcases sessions_set_eq_some rightFound with ⟨rfl, new⟩ | ⟨_, rightOld⟩
      · cases new
        intro key leftHeld rightHeld
        exact free left leftSession different leftOld key rightHeld leftHeld
      · exact sound.exclusive different leftOld rightOld
  replays := by
    intro other found isFound
    rcases sessions_set_eq_some isFound with ⟨_, new⟩ | ⟨_, old⟩
    · cases new
      exact replays
    · exact sound.replays old
  origin := by
    intro other found isFound
    rcases sessions_set_eq_some isFound with ⟨_, new⟩ | ⟨_, old⟩
    · cases new
      exact origin
    · exact sound.origin old

/-- A commit under locks changes nothing that another session has locked. -/
theorem commit {session : Session client L}
    {next : Program D ε (client.Result session.call)} (sound : system.Sound)
    (found : system.sessions place = some session)
    (covers : L.Covers session.held session.pending)
    (last : next.CommitFree) (commits : List (Commit client)) :
    (System.mk (session.view system.committed)
      (Function.update system.sessions place (some
        { session with
          origin := next
          rest := next
          pending := []
          held := [] })) commits : System client L).Sound := by
  have alone : (System.mk (session.view system.committed)
      (system.set place none).sessions commits : System client L).Sound := by
    constructor
    case exclusive => exact sound.close.exclusive
    case origin => exact sound.close.origin
    case replays =>
      intro other otherSession otherFound
      rcases sessions_set_eq_some otherFound with
        ⟨_, closed⟩ | ⟨different, old⟩
      · simp at closed
      · apply (sound.replays old).of_agree
        intro key held
        have notHeld : key ∉ session.held :=
          sound.exclusive different old found key held
        exact (Locking.slice_applyAll covers notHeld _).symm
  have renewed : ((System.mk (session.view system.committed)
      (system.set place none).sessions commits : System client L).set place
        (some
          { session with
            origin := next
            rest := next
            pending := []
            held := [] })).Sound :=
    alone.put (fun _ _ _ _ _ member => absurd member List.not_mem_nil)
      .start (Or.inr last)
  simpa only [set, Function.update_idem] using renewed

end Sound

/-- What every call keeps under its locks holds in every state that any
interleaving of calls commits, and every commit is one that a call makes. -/
theorem Reachable.history {initial holds : D.State → Prop}
    {made : Commit client → Prop}
    (start : ∀ state, initial state → holds state)
    (keeps : Keeps client L holds made) {system : System client L}
    (reachable : System.Reachable initial system) :
    holds system.committed ∧
      ∃ first, initial first ∧
        History made first system.commits system.committed := by
  suffices invariant : system.Sound ∧ holds system.committed ∧
      ∃ first, initial first ∧
        History made first system.commits system.committed from
    invariant.2
  induction reachable with
  | @initial state isInitial =>
      exact ⟨sound_initial state, start state isInitial, state, isInitial,
        .nil⟩
  | @step system next _ taken inductionHypothesis =>
      obtain ⟨sound, held, history⟩ := inductionHypothesis
      cases taken with
      | start place call _ =>
          refine ⟨sound.put ?_ .start (Or.inl rfl), held, history⟩
          intro other session _ _ key member
          simp [Session.start] at member
      | close place => exact ⟨sound.close, held, history⟩
      | exec place session found isNext free answered =>
          have origin := sound.origin found
          refine ⟨sound.put ?_ ?_ origin, held, history⟩
          · intro other otherSession different otherFound key member
            rcases List.mem_append.mp member with old | new
            · exact sound.exclusive (Ne.symm different) found otherFound key
                old
            · exact free other otherSession different otherFound key new
          · exact .exec _ (isNext ▸ sound.replays found)
              (fun _ _ => rfl) answered
      | commit place session found isNext =>
          have replays := isNext ▸ sound.replays found
          have fromStart : session.origin = client.program session.call := by
            rcases sound.origin found with isProgram | last
            · exact isProgram
            · cases replays.commitFree last
          rw [fromStart] at replays
          have whole := keeps session.call system.committed held
          cases replays.locked whole with
          | commit last now =>
              refine ⟨sound.commit found (replays.covers whole) last _, now.1,
                ?_⟩
              rcases history with ⟨first, isInitial, past⟩
              exact ⟨first, isInitial, .cons past now.2⟩

/-- The system with other names for its locks. -/
def relock (system : System client L) (M : Locking D) (rename : L.Key → M.Key) :
    System client M where
  committed := system.committed
  sessions place := (system.sessions place).map fun session =>
    ⟨session.call, session.origin, session.rest, session.pending,
      session.held.map rename⟩
  commits := system.commits

section Relocking

variable {M : Locking D} {rename : L.Key → M.Key} {system : System client L}
  {place : Nat}

private theorem sessions_relock {session : Session client L}
    (found : system.sessions place = some session) :
    (system.relock M rename).sessions place = some
      ⟨session.call, session.origin, session.rest, session.pending,
        session.held.map rename⟩ := by
  simp [relock, found]

private theorem relock_update (committed : D.State) (session : Session client L)
    (commits : List (Commit client)) :
    (System.mk committed (Function.update system.sessions place (some session))
        commits : System client L).relock M rename =
      ⟨committed, Function.update (system.relock M rename).sessions place (some
        ⟨session.call, session.origin, session.rest, session.pending,
          session.held.map rename⟩), commits⟩ := by
  simp only [relock, System.mk.injEq, true_and, and_true]
  funext other
  by_cases same : other = place
  · subst same
    simp
  · simp [same]

private theorem free_relock
    (distinct : Function.Injective rename) {keys : List L.Key}
    (free : system.Free place keys) :
    (system.relock M rename).Free place (keys.map rename) := by
  intro other session different found
  rcases Option.map_eq_some_iff.mp found with ⟨original, isFound, rfl⟩
  intro key member
  rcases List.mem_map.mp member with ⟨old, isOld, rfl⟩
  intro held
  rcases List.mem_map.mp held with ⟨taken, isTaken, same⟩
  exact free other original different isFound old isOld (distinct same ▸ isTaken)

/-- Locks that are acquired alike allow the same interleavings, whatever
slices they guard. -/
theorem Reachable.relock {initial : D.State → Prop}
    (distinct : Function.Injective rename)
    (acquired : ∀ query state,
      M.acquires query state = (L.acquires query state).map rename)
    (reachable : Reachable initial system) :
    Reachable initial (system.relock M rename) := by
  induction reachable with
  | initial isInitial => exact .initial isInitial
  | @step system next _ taken inductionHypothesis =>
      apply inductionHypothesis.step
      cases taken with
      | start place call isFree =>
          have isFreeHere : (system.relock M rename).sessions place = none := by
            simp [System.relock, isFree]
          rw [System.set, relock_update]
          exact .start place call isFreeHere
      | exec place session found isNext free answered =>
          have foundHere : (system.relock M rename).sessions place = some _ :=
            sessions_relock found
          have freeHere := free_relock (M := M) distinct free
          rw [← acquired] at freeHere
          have taken := Step.exec place _ foundHere isNext freeHere answered
          rw [System.set, relock_update, List.map_append, ← acquired]
          exact taken
      | commit place session found isNext =>
          have foundHere : (system.relock M rename).sessions place = some _ :=
            sessions_relock found
          rw [relock_update]
          exact .commit place _ foundHere isNext
      | close place =>
          have closed : (system.set place none).relock M rename =
              (system.relock M rename).set place none := by
            simp only [System.relock, System.set, System.mk.injEq, true_and,
              and_true]
            funext other
            by_cases same : other = place
            · subst same
              simp
            · simp [same]
          rw [closed]
          exact .close place

end Relocking

theorem sessions_set_self (system : System client L) (place : Nat)
    (session : Option (Session client L)) :
    (system.set place session).sessions place = session :=
  Function.update_self ..

@[simp]
theorem set_set (system : System client L) (place : Nat)
    (first second : Option (Session client L)) :
    (system.set place first).set place second = system.set place second := by
  simp [set]

/-- Nothing but a committed state and its past. -/
def idle (state : D.State) (commits : List (Commit client)) :
    System client L :=
  ⟨state, fun _ => none, commits⟩

theorem Reachable.atRest {initial : D.State → Prop} {state : D.State}
    (isInitial : initial state) :
    Reachable initial (System.idle state [] : System client L) :=
  .initial isInitial

private theorem Reachable.rest_alone {initial : D.State → Prop}
    {state : D.State} {commits : List (Commit client)} {call : client.Call}
    {origin rest : Program D ε (client.Result call)}
    (commitsLast : rest.CommitsLast) {value : client.Result call}
    {final : Connection D} :
    ∀ {pending : List D.Write} {held : List L.Key},
      Reachable initial ((idle state commits : System client L).set 0
        (some ⟨call, origin, rest, pending, held⟩)) →
      rest.eval ⟨state, D.applyAll pending state⟩ = (.ok value, final) →
      final.committed = state ∨
        Reachable initial (idle final.committed
          (⟨call, state, final.committed, .done (.ok value)⟩ :: commits) :
            System client L) := by
  induction commitsLast with
  | done outcome =>
      intro pending held _ ended
      rw [Program.eval_done, Prod.mk.injEq] at ended
      exact Or.inl (ended.2 ▸ rfl)
  | @exec query onFault next _ inductionHypothesis =>
      intro pending held reachable ended
      rw [Program.eval_exec] at ended
      cases answered : D.exec query (D.applyAll pending state) with
      | error fault => simp [answered] at ended
      | ok answer =>
          obtain ⟨reply, writes⟩ := answer
          rw [answered] at ended
          have taken := reachable.step (.exec 0
            ⟨call, origin, .exec query onFault next, pending, held⟩
            (sessions_set_self ..) rfl
            (by
              intro other session different found
              simp [set, idle, different] at found)
            answered)
          rw [set_set] at taken
          apply inductionHypothesis reply taken
          rw [Database.applyAll_append]
          exact ended
  | commit onFault result =>
      intro pending held reachable ended
      rw [Program.eval_commit, Program.eval_done, Prod.mk.injEq] at ended
      obtain ⟨same, rfl⟩ := ended
      cases same
      have committed := reachable.step (.commit 0
        ⟨call, origin, .commit onFault (.done (.ok value)), pending, held⟩
        (sessions_set_self ..) rfl)
      have closed := committed.step (.close 0)
      right
      simpa [set, idle, Session.view, Connection.fresh] using closed

/-- A call that runs alone is an interleaving of its own. -/
theorem Reachable.alone {initial : D.State → Prop} {state reached : D.State}
    {commits : List (Commit client)} {call : client.Call}
    (reachable : Reachable initial
      (idle state commits : System client L))
    (commitsLast : (client.program call).CommitsLast)
    {value : client.Result call}
    (ended : (client.program call).call state = (.ok value, reached)) :
    reached = state ∨
      Reachable initial (idle reached
        (⟨call, state, reached, .done (.ok value)⟩ :: commits) :
          System client L) := by
  obtain ⟨final, evaluated, rfl⟩ := Program.call_eq_ok ended
  exact Reachable.rest_alone commitsLast
    (reachable.step (.start 0 call rfl)) evaluated

end System

end NetworkManager.Transaction
