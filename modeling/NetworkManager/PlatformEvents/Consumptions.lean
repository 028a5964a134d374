import NetworkManager.Foundation.OnceOnly
import NetworkManager.PlatformEvents.Outbox

/-!
# Consumptions

An event may be delivered more than once, and a consumer that records its
consumption is told whether it is the first to do so.  A call may fail before it
commits, or its answer may be lost afterwards.
-/

namespace NetworkManager.PlatformEvents

open NetworkManager.Foundation
open NetworkManager.Transaction

structure Consumption where
  consumer : String
  eventId : Uuid
  consumedAt : Timestamp
deriving DecidableEq, Repr

/-- `PRIMARY KEY (consumer, event_id)`. -/
def Consumption.key (row : Consumption) : String × Uuid :=
  (row.consumer, row.eventId)

abbrev Consumptions := Table (String × Uuid) Consumption Consumption.key

inductive ConsumptionStatement where
  | insert (row : Consumption)

abbrev ConsumptionReply : ConsumptionStatement → Type
  | .insert _ => Nat

/-- `INSERT .. ON CONFLICT DO NOTHING`: the number of rows. -/
def execInsert (row : Consumption) (table : Consumptions) :
    Nat × List Consumption :=
  match table.lookup row.key with
  | some _ => (0, [])
  | none => (1, [row])

abbrev consumptionSql : Database where
  Statement := ConsumptionStatement
  Reply := ConsumptionReply
  Fault := SqlError
  State := Consumptions
  Write := Consumption
  apply := Table.put
  exec
    | .insert row, table => .ok (execInsert row table)

/-- The errors of `OutboxError` that a consumption ends with. -/
inductive ConsumptionError where
  | invalidConsumer
  | database (failure : SqlError)
deriving DecidableEq, Repr

/-- The statement runs on the pool, in a transaction of its own. -/
def recordConsumption (consumer : String) (eventId : Uuid) (now : Timestamp) :
    Program consumptionSql ConsumptionError Bool := do
  Program.check (!isBlank consumer) .invalidConsumer
  let inserted ← Program.statement (D := consumptionSql)
    (.insert ⟨consumer, eventId, now⟩) .database
  Program.commitNow .database
  return inserted == 1

/-- A call, the faults that befall it, and the one, if any, that takes its
answer away once it has committed. -/
structure ConsumptionCall where
  consumer : String
  eventId : Uuid
  now : Timestamp
  plan : List (Option SqlError)
  lost : Option SqlError
deriving DecidableEq, Repr

namespace ConsumptionCall

def key (call : ConsumptionCall) : String × Uuid :=
  (call.consumer, call.eventId)

def ends (call : ConsumptionCall) (table : Consumptions) :
    Except ConsumptionError Bool × Consumptions :=
  (recordConsumption call.consumer call.eventId call.now).callFaulty call.plan
    table

/-- What the caller gets. -/
def answer (call : ConsumptionCall) (table : Consumptions) :
    Except ConsumptionError Bool :=
  match (call.ends table).1, call.lost with
  | .ok _, some failure => .error (.database failure)
  | outcome, _ => outcome

def after (table : Consumptions) (call : ConsumptionCall) : Consumptions :=
  (call.ends table).2

/-- The call commits: neither the statement nor the commit fails. -/
def lands (call : ConsumptionCall) : Bool :=
  !isBlank call.consumer && call.plan.head?.join.isNone &&
    call.plan.tail.head?.join.isNone

end ConsumptionCall

/-- The calls of a run with their answers. -/
def consumptionAnswers (table : Consumptions) :
    List ConsumptionCall →
      List (ConsumptionCall × Except ConsumptionError Bool)
  | [] => []
  | call :: calls =>
      (call, call.answer table) :: consumptionAnswers (call.after table) calls

def consumptionsAfter (table : Consumptions) (calls : List ConsumptionCall) :
    Consumptions :=
  calls.foldl ConsumptionCall.after table

/-! ## The table as a register -/

/-- Rows are entered under their primary key. -/
def consumptionRegister :
    Register Consumptions Consumption (String × Uuid) where
  Knows table key := (table.lookup key).isSome = true
  keyOf := Consumption.key
  enter row table :=
    ((execInsert row table).1 == 1,
      consumptionSql.applyAll (execInsert row table).2 table)
  enter_iff := by
    intro row table
    rw [execInsert]
    cases found : table.lookup row.key with
    | some stored => simp
    | none => simp
  knows_enter := by
    intro row table other
    rw [execInsert]
    cases found : table.lookup row.key with
    | some stored =>
        have known : other = row.key → (table.lookup other).isSome = true := by
          rintro rfl
          rw [found]
          rfl
        exact ⟨Or.inl, fun either => either.elim id known⟩
    | none =>
        change ((table.put row).lookup other).isSome = true ↔ _
        rw [Table.lookup_put]
        by_cases same : row.key = other
        · simp [same]
        · simp [same, Ne.symm same]

namespace ConsumptionCall

def row (call : ConsumptionCall) : Consumption :=
  ⟨call.consumer, call.eventId, call.now⟩

/-- A call as an entry of the register. -/
def entry (call : ConsumptionCall) : Entry Consumption where
  item := call.row
  fate :=
    if call.lands then
      if call.lost.isNone then .answered else .unanswered
    else .dropped

variable {call : ConsumptionCall} {table : Consumptions}

/-- A call that lands has entered its row, and any other fails. -/
theorem ends_eq : (call.lands = true ∧
      call.ends table = (.ok (consumptionRegister.enter call.row table).1,
        (consumptionRegister.enter call.row table).2)) ∨
    call.lands = false ∧
      ∃ failure, call.ends table = (.error failure, table) := by
  obtain ⟨consumer, eventId, now, plan, lost⟩ := call
  cases blank : isBlank consumer with
  | true =>
      refine Or.inr ⟨by simp [lands, blank], .invalidConsumer, ?_⟩
      rw [ends, recordConsumption, blank]
      rfl
  | false =>
      have unfolded : recordConsumption consumer eventId now =
          .exec (.insert ⟨consumer, eventId, now⟩) .database fun inserted =>
            .commit .database (.done (.ok (inserted == 1))) := by
        rw [recordConsumption, blank]
        rfl
      rw [ends, unfolded, Program.callFaulty, Program.evalFaulty]
      cases first : plan.head?.join with
      | some fault =>
          exact Or.inr ⟨by simp [lands, first], .database fault, rfl⟩
      | none =>
          simp only [Program.evalFaulty]
          cases second : plan.tail.head?.join with
          | some fault =>
              refine Or.inr ⟨?_, .database fault, rfl⟩
              rw [lands, second]
              exact Bool.and_false _
          | none =>
              refine Or.inl ⟨?_, rfl⟩
              rw [lands, blank, first, second]
              rfl

private theorem fate_ne_dropped_iff :
    call.entry.fate ≠ .dropped ↔ call.lands = true := by
  rw [entry]
  cases call.lands with
  | true => cases call.lost <;> simp
  | false => simp

private theorem fate_eq_answered_iff (lands : call.lands = true) :
    call.entry.fate = .answered ↔ call.lost = none := by
  rw [entry, lands]
  cases call.lost <;> simp

private theorem after_eq :
    call.after table = consumptionRegister.after table call.entry := by
  rw [after, Register.after, entry]
  rcases @ends_eq call table with ⟨lands, ended⟩ | ⟨fails, failure, ended⟩
  · rw [ended, lands]
    cases call.lost with
    | none => rfl
    | some fault => rfl
  · rw [ended, fails]
    rfl

private theorem answer_eq_first_iff :
    call.answer table = .ok true ↔
      consumptionRegister.tellsFirst table call.entry = true := by
  rw [answer, Register.tellsFirst, entry]
  rcases @ends_eq call table with ⟨lands, ended⟩ | ⟨fails, failure, ended⟩
  · rw [ended, lands]
    cases call.lost with
    | none => simp
    | some fault => simp
  · rw [ended, fails]
    simp

end ConsumptionCall

private theorem consumptionsAfter_eq (table : Consumptions)
    (calls : List ConsumptionCall) :
    consumptionsAfter table calls =
      consumptionRegister.run table (calls.map ConsumptionCall.entry) := by
  have steps : ConsumptionCall.after = fun table call =>
      consumptionRegister.after table (ConsumptionCall.entry call) :=
    funext fun table => funext fun call => ConsumptionCall.after_eq
  rw [consumptionsAfter, Register.run, List.foldl_map, steps]

/-- The answers `true` to the calls for a pair. -/
def firstAnswers (table : Consumptions) (calls : List ConsumptionCall)
    (key : String × Uuid) : Nat :=
  (consumptionAnswers table calls).countP fun answered =>
    answered.1.key = key ∧ answered.2 = .ok true

private theorem firstAnswers_eq
    (table : Consumptions) (calls : List ConsumptionCall)
    (key : String × Uuid) :
    firstAnswers table calls key =
      consumptionRegister.firsts table (calls.map ConsumptionCall.entry)
        key := by
  induction calls generalizing table with
  | nil => rfl
  | cons call calls inductionHypothesis =>
      have split : firstAnswers table (call :: calls) key =
          firstAnswers (call.after table) calls key +
            if call.key = key ∧ call.answer table = .ok true then 1 else 0 := by
        rw [firstAnswers, consumptionAnswers, List.countP_cons, firstAnswers]
        simp only [decide_eq_true_eq]
      rw [split, inductionHypothesis, List.map_cons, Register.firsts_cons,
        ConsumptionCall.after_eq]
      simp only [ConsumptionCall.answer_eq_first_iff]
      rfl

/-- The calls for a pair that commit. -/
def landing (calls : List ConsumptionCall) (key : String × Uuid) :
    List ConsumptionCall :=
  calls.filter fun call => call.key = key ∧ call.lands = true

private theorem effective_entries (calls : List ConsumptionCall)
    (key : String × Uuid) :
    consumptionRegister.effective (calls.map ConsumptionCall.entry) key =
      (landing calls key).map ConsumptionCall.entry := by
  rw [Register.effective, landing, List.filter_map]
  congr 1
  apply List.filter_congr
  intro call _
  apply decide_eq_decide.mpr
  exact and_congr_right fun _ => ConsumptionCall.fate_ne_dropped_iff

/-- Over any calls of any consumers, a pair is recorded once a call for it has
committed, and of all calls for the pair at most one is answered `true`: the
first one that commits, where the pair was not recorded before and its answer
arrives. -/
theorem consumed_once (table : Consumptions) (calls : List ConsumptionCall)
    (key : String × Uuid) :
    (((consumptionsAfter table calls).lookup key).isSome = true ↔
        (table.lookup key).isSome = true ∨ landing calls key ≠ []) ∧
      firstAnswers table calls key =
        if table.lookup key = none ∧
            (landing calls key).head?.map ConsumptionCall.lost =
              some none then 1
        else 0 := by
  constructor
  · rw [consumptionsAfter_eq]
    have known := @Register.knows_run_iff _ _ _ _ consumptionRegister table
      (calls.map ConsumptionCall.entry) key
    rw [effective_entries, ne_eq, List.map_eq_nil_iff] at known
    exact known
  · rw [firstAnswers_eq]
    cases found : table.lookup key with
    | some row =>
        have known : consumptionRegister.Knows table key := by
          change (table.lookup key).isSome = true
          rw [found]
          rfl
        rw [Register.firsts_of_knows known, if_neg]
        rintro ⟨⟨⟩, _⟩
    | none =>
        have fresh : ¬consumptionRegister.Knows table key := by
          change ¬(table.lookup key).isSome = true
          rw [found]
          simp
        rw [Register.firsts_of_not_knows fresh, effective_entries,
          List.head?_map, Option.map_map]
        simp only [true_and]
        congr 1
        apply propext
        cases begins : (landing calls key).head? with
        | none => simp
        | some call =>
            have member := List.mem_filter.mp (List.mem_of_head? begins)
            have both := of_decide_eq_true member.2
            simp [ConsumptionCall.fate_eq_answered_iff both.2]

end NetworkManager.PlatformEvents
