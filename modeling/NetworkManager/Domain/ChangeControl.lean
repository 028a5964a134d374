import Mathlib.Data.List.Basic
import NetworkManager.Foundation.Uuid

/-!
# Change control

A change is planned, approved, and carried out on its targets.  An approval is
compared with a plan before the plan runs; the results of the targets are
summarized after it ran.
-/

namespace NetworkManager.Domain.ChangeControl

open NetworkManager.Foundation

inductive ChangeRisk where
  | low
  | medium
  | high
  | critical
deriving DecidableEq, Repr

inductive ChangeState where
  | planned
  | awaitingApproval
  | approved
  | running
  | paused
  | partiallySucceeded
  | succeeded
  | failed
  | rolledBack
  | unknown
  | cancelled
deriving DecidableEq, Repr

structure ChangePlan where
  id : Uuid
  action : String
  targetFingerprint : String
  inputFingerprint : String
  providerVersion : String
  risk : ChangeRisk
  dryRun : Bool
  rollbackSupported : Bool
deriving DecidableEq, Repr

structure Approval where
  planId : Uuid
  approverId : Uuid
  targetFingerprint : String
  inputFingerprint : String
  providerVersion : String
  approvedAtUnixMs : Int64
  expiresAtUnixMs : Int64
deriving DecidableEq, Repr

namespace Approval

def isValidFor (approval : Approval) (plan : ChangePlan) (nowUnixMs : Int64) :
    Bool :=
  approval.planId == plan.id &&
    approval.targetFingerprint == plan.targetFingerprint &&
    approval.inputFingerprint == plan.inputFingerprint &&
    approval.providerVersion == plan.providerVersion &&
    decide (nowUnixMs < approval.expiresAtUnixMs)

/-- The four fields of a plan that an approval repeats. -/
def Names (approval : Approval) (plan : ChangePlan) : Prop :=
  approval.planId = plan.id ∧
    approval.targetFingerprint = plan.targetFingerprint ∧
    approval.inputFingerprint = plan.inputFingerprint ∧
    approval.providerVersion = plan.providerVersion

private theorem isValidFor_iff {approval : Approval} {plan : ChangePlan}
    {nowUnixMs : Int64} :
    approval.isValidFor plan nowUnixMs = true ↔
      approval.Names plan ∧ nowUnixMs < approval.expiresAtUnixMs := by
  simp [isValidFor, Names, and_assoc]

/-- The plan of an approval, run for real or not. -/
def planOf (approval : Approval) (dryRun : Bool) : ChangePlan where
  id := approval.planId
  action := ""
  targetFingerprint := approval.targetFingerprint
  inputFingerprint := approval.inputFingerprint
  providerVersion := approval.providerVersion
  risk := .low
  dryRun := dryRun
  rollbackSupported := false

private theorem names_planOf (approval : Approval) (dryRun : Bool) :
    approval.Names (approval.planOf dryRun) :=
  ⟨rfl, rfl, rfl, rfl⟩

/-- The approval is good for one plan, from the time it was given until it
expires. -/
def CoversOnePlan (approval : Approval) : Prop :=
  (∀ left right leftNow rightNow,
    approval.isValidFor left leftNow = true →
      approval.isValidFor right rightNow = true → left = right) ∧
  ∀ plan nowUnixMs, approval.isValidFor plan nowUnixMs = true →
    approval.approvedAtUnixMs ≤ nowUnixMs ∧
      nowUnixMs < approval.expiresAtUnixMs

private theorem not_lt_minValue (time : Int64) : ¬time < Int64.minValue := by
  rw [Int64.lt_iff_toInt_lt]
  have least := Int64.minValue_le_toInt time
  omega

private theorem minValue_lt_of_ne
    {time : Int64} (other : time ≠ Int64.minValue) :
    Int64.minValue < time := by
  rw [Int64.lt_iff_toInt_lt]
  have least := Int64.minValue_le_toInt time
  have differs : time.toInt ≠ Int64.minValue.toInt :=
    fun same => other (Int64.toInt.inj same)
  omega

/-- An approval that is valid at any time is valid for a dry run and for the
real run. -/
theorem coversOnePlan_iff (approval : Approval) :
    approval.CoversOnePlan ↔ approval.expiresAtUnixMs = Int64.minValue := by
  constructor
  · intro ⟨onePlan, _⟩
    by_contra expires
    have valid (dryRun : Bool) :
        approval.isValidFor (approval.planOf dryRun) Int64.minValue = true :=
      isValidFor_iff.mpr
        ⟨approval.names_planOf dryRun, minValue_lt_of_ne expires⟩
    have same := onePlan _ _ _ _ (valid true) (valid false)
    exact Bool.noConfusion (congrArg ChangePlan.dryRun same)
  · intro expires
    have never (plan : ChangePlan) (now : Int64) :
        approval.isValidFor plan now ≠ true := by
      intro valid
      have before := (isValidFor_iff.mp valid).2
      rw [expires] at before
      exact not_lt_minValue now before
    exact ⟨fun left _ leftNow _ valid => absurd valid (never left leftNow),
      fun plan now valid => absurd valid (never plan now)⟩

/-- An approval of the high-risk real run of a plan, given at 100 and good until
1000. -/
def sample : Approval where
  planId := ⟨1⟩
  approverId := ⟨2⟩
  targetFingerprint := "target-a"
  inputFingerprint := "input-a"
  providerVersion := "1"
  approvedAtUnixMs := 100
  expiresAtUnixMs := 1000

def samplePlan (dryRun : Bool) : ChangePlan where
  id := ⟨1⟩
  action := "vlans.write"
  targetFingerprint := "target-a"
  inputFingerprint := "input-a"
  providerVersion := "1"
  risk := .high
  dryRun := dryRun
  rollbackSupported := true

/-- The approval of the dry run is an approval of the real run, and it is valid
before it was given. -/
theorem not_coversOnePlan_sample :
    ¬sample.CoversOnePlan ∧
      sample.isValidFor (samplePlan true) 200 = true ∧
      sample.isValidFor (samplePlan false) 200 = true ∧
      sample.isValidFor (samplePlan true) 50 = true := by
  refine ⟨fun covers => ?_, by decide, by decide, by decide⟩
  have same := covers.1 (samplePlan true) (samplePlan false) 200 200
    (by decide) (by decide)
  exact Bool.noConfusion (congrArg ChangePlan.dryRun same)

end Approval

/-! ## Summaries of the targets -/

inductive TargetOutcome where
  | succeeded
  | failed
  | rolledBack
  | unknown
  | notAttempted
deriving DecidableEq, Repr

structure TargetResult where
  targetId : String
  outcome : TargetOutcome
  confirmed : Bool
  errorCode : Option String
deriving DecidableEq, Repr

def summarizeTargets (results : List TargetResult) : ChangeState :=
  if results.isEmpty then
    .failed
  else if results.any fun item => item.outcome == .unknown || !item.confirmed
  then
    .unknown
  else
    let succeeded :=
      (results.filter fun item => item.outcome == .succeeded).length
    let failed := (results.filter fun item => item.outcome == .failed).length
    if succeeded = results.length then
      .succeeded
    else if failed = results.length then
      .failed
    else
      .partiallySucceeded

/-- What became of the target is not known for sure. -/
def TargetResult.Unsettled (result : TargetResult) : Prop :=
  result.outcome = .unknown ∨ result.confirmed = false

instance (result : TargetResult) : Decidable result.Unsettled :=
  inferInstanceAs (Decidable (_ ∨ _))

private theorem confirmed_of_settled {result : TargetResult}
    (settled : ¬result.Unsettled) :
    result.outcome ≠ .unknown ∧ result.confirmed = true := by
  simpa [TargetResult.Unsettled] using settled

/-- The summary by what is said of the members, without counting. -/
theorem summarizeTargets_eq (results : List TargetResult) :
    summarizeTargets results =
      if results = [] then .failed
      else if ∃ result ∈ results, result.Unsettled then .unknown
      else if ∀ result ∈ results, result.outcome = .succeeded then .succeeded
      else if ∀ result ∈ results, result.outcome = .failed then .failed
      else .partiallySucceeded := by
  simp only [summarizeTargets, List.isEmpty_iff, List.any_eq_true,
    Bool.or_eq_true, beq_iff_eq, Bool.not_eq_true',
    List.length_filter_eq_length_iff, TargetResult.Unsettled]
  congr

/-- The summary does not say more than the set of the results does. -/
theorem summarizeTargets_congr {left right : List TargetResult}
    (same : ∀ result, result ∈ left ↔ result ∈ right) :
    summarizeTargets left = summarizeTargets right := by
  have empty : left = [] ↔ right = [] := by
    simp [List.eq_nil_iff_forall_not_mem, same]
  simp only [summarizeTargets_eq, empty, same]

section Cases

variable {results : List TargetResult}

theorem summarizeTargets_eq_unknown_iff :
    summarizeTargets results = .unknown ↔
      ∃ result ∈ results, result.Unsettled := by
  rw [summarizeTargets_eq]
  constructor
  · intro summary
    by_contra settled
    rw [if_neg settled] at summary
    split_ifs at summary
  · intro unsettled
    have nonempty : results ≠ [] := by
      rcases unsettled with ⟨result, member, _⟩
      exact List.ne_nil_of_mem member
    rw [if_neg nonempty, if_pos unsettled]

/-- A summary of success speaks for every target. -/
theorem summarizeTargets_eq_succeeded
    (summary : summarizeTargets results = .succeeded) :
    results ≠ [] ∧
      ∀ result ∈ results,
        result.outcome = .succeeded ∧ result.confirmed = true := by
  rw [summarizeTargets_eq] at summary
  split_ifs at summary with empty unsettled succeeded
  refine ⟨empty, fun result member => ⟨succeeded result member, ?_⟩⟩
  by_contra unconfirmed
  exact unsettled ⟨result, member, .inr (Bool.not_eq_true _ ▸ unconfirmed)⟩

private theorem summarizeTargets_eq_partiallySucceeded_iff :
    summarizeTargets results = .partiallySucceeded ↔
      (∀ result ∈ results, ¬result.Unsettled) ∧
        (∃ result ∈ results, result.outcome ≠ .succeeded) ∧
          ∃ result ∈ results, result.outcome ≠ .failed := by
  rw [summarizeTargets_eq]
  constructor
  · intro summary
    split_ifs at summary with empty unsettled succeeded failed
    push Not at unsettled succeeded failed
    exact ⟨unsettled, succeeded, failed⟩
  · intro ⟨settled, notSucceeded, notFailed⟩
    have nonempty : results ≠ [] := by
      rcases notFailed with ⟨result, member, _⟩
      exact List.ne_nil_of_mem member
    rw [if_neg nonempty, if_neg (by push Not; exact settled),
      if_neg (by push Not; exact notSucceeded),
      if_neg (by push Not; exact notFailed)]

end Cases

/-- Success is reported only for what succeeded for sure: for every target, or
in part. -/
def NeverInventsSuccess (results : List TargetResult) : Prop :=
  (summarizeTargets results = .succeeded →
    results ≠ [] ∧
      ∀ result ∈ results,
        result.outcome = .succeeded ∧ result.confirmed = true) ∧
  (summarizeTargets results = .partiallySucceeded →
    (∀ result ∈ results,
      result.outcome ≠ .unknown ∧ result.confirmed = true) ∧
    (∃ result ∈ results, result.outcome = .succeeded) ∧
    ∃ result ∈ results, result.outcome ≠ .succeeded) ∧
  ((∀ result ∈ results,
      ¬(result.outcome = .succeeded ∧ result.confirmed = true)) →
    summarizeTargets results ∈
      ([.failed, .rolledBack, .cancelled, .unknown] : List ChangeState)) ∧
  ∀ reordered : List TargetResult, reordered.Perm results →
    summarizeTargets reordered = summarizeTargets results

/-- The last branch of `summarizeTargets` takes every mixture of settled results
for a partial success, also one without any success. -/
theorem neverInventsSuccess_iff (results : List TargetResult) :
    NeverInventsSuccess results ↔
      results = [] ∨
        (∃ result ∈ results,
          result.outcome = .unknown ∨ result.confirmed = false) ∨
        (∃ result ∈ results, result.outcome = .succeeded) ∨
        ∀ result ∈ results, result.outcome = .failed := by
  constructor
  · intro ⟨_, partly, _, _⟩
    by_contra mixture
    push Not at mixture
    obtain ⟨nonempty, settled, noSuccess, notAllFailed⟩ := mixture
    obtain ⟨some, member⟩ := List.exists_mem_of_ne_nil results nonempty
    have summary : summarizeTargets results = .partiallySucceeded := by
      refine summarizeTargets_eq_partiallySucceeded_iff.mpr
        ⟨?_, ⟨some, member, noSuccess some member⟩, notAllFailed⟩
      intro result inside unsettled
      rcases unsettled with unknown | unconfirmed
      · exact (settled result inside).1 unknown
      · exact (settled result inside).2 unconfirmed
    obtain ⟨_, ⟨result, inside, succeeded⟩, _⟩ := partly summary
    exact noSuccess result inside succeeded
  · intro clear
    have partlySucceeds
        (summary : summarizeTargets results = .partiallySucceeded) :
        ∃ result ∈ results,
          result.outcome = .succeeded ∧ result.confirmed = true := by
      obtain ⟨settled, _, ⟨other, inside, notFailed⟩⟩ :=
        summarizeTargets_eq_partiallySucceeded_iff.mp summary
      rcases clear with empty | ⟨result, member, unsettled⟩ |
        ⟨result, member, succeeded⟩ | failed
      · exact absurd empty (List.ne_nil_of_mem inside)
      · exact absurd unsettled (settled result member)
      · exact ⟨result, member, succeeded,
          (confirmed_of_settled (settled result member)).2⟩
      · exact absurd (failed other inside) notFailed
    refine ⟨summarizeTargets_eq_succeeded, ?_, ?_, ?_⟩
    · intro summary
      obtain ⟨settled, notSucceeded, _⟩ :=
        summarizeTargets_eq_partiallySucceeded_iff.mp summary
      obtain ⟨result, member, succeeded, _⟩ := partlySucceeds summary
      exact ⟨fun result member => confirmed_of_settled (settled result member),
        ⟨result, member, succeeded⟩, notSucceeded⟩
    · intro noSuccess
      cases summary : summarizeTargets results with
      | failed => decide
      | rolledBack => decide
      | cancelled => decide
      | unknown => decide
      | succeeded =>
          obtain ⟨nonempty, succeeded⟩ := summarizeTargets_eq_succeeded summary
          obtain ⟨result, member⟩ := List.exists_mem_of_ne_nil results nonempty
          exact absurd (succeeded result member) (noSuccess result member)
      | partiallySucceeded =>
          obtain ⟨result, member, success⟩ := partlySucceeds summary
          exact absurd success (noSuccess result member)
      | _ =>
          rw [summarizeTargets_eq] at summary
          split_ifs at summary
    · intro reordered permutation
      exact summarizeTargets_congr fun result => permutation.mem_iff

/-- The only target was rolled back, for sure. -/
def rolledBackTarget : TargetResult where
  targetId := "a"
  outcome := .rolledBack
  confirmed := true
  errorCode := none

/-- A change that was rolled back everywhere is summarized as a partial
success. -/
theorem not_neverInventsSuccess_rolledBack :
    ¬NeverInventsSuccess [rolledBackTarget] := by
  intro honest
  obtain ⟨_, ⟨result, member, succeeded⟩, _⟩ := honest.2.1 (by decide)
  rw [List.mem_singleton] at member
  subst member
  exact TargetOutcome.noConfusion succeeded

end NetworkManager.Domain.ChangeControl
