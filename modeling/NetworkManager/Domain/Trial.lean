import NetworkManager.Foundation.Bytes
import NetworkManager.Foundation.Uuid

/-!
# Trial licences

A licence has a stored state and a period.  `decide` answers a request from the
end of the period, the policy and the usage; it reads neither the beginning of
the period nor, conversion apart, the stored state.
-/

namespace NetworkManager.Domain.Trial

open NetworkManager.Foundation

inductive TrialState where
  | inactive
  | active
  | expiring
  | expired
  | converted
deriving DecidableEq, Repr

structure TrialPolicy where
  maxDevices : Nat
  maxSites : Nat
  maxAdminUsers : Nat
  allowReadCapabilities : Bool
  allowLowRiskMutations : Bool
  allowCriticalMutations : Bool
deriving DecidableEq, Repr

def TrialPolicy.default : TrialPolicy where
  maxDevices := 100
  maxSites := 3
  maxAdminUsers := 3
  allowReadCapabilities := true
  allowLowRiskMutations := false
  allowCriticalMutations := false

structure TrialLicense where
  id : Uuid
  installationId : Uuid
  state : TrialState
  startsAtUnixMs : Int
  expiresAtUnixMs : Int
  policy : TrialPolicy
deriving DecidableEq, Repr

inductive TrialAction where
  | read
  | lowRiskMutation
  | criticalMutation
  | createDevice
  | createSite
  | createAdminUser
deriving DecidableEq, Repr

structure TrialUsage where
  devices : Nat
  sites : Nat
  adminUsers : Nat
deriving DecidableEq, Repr

inductive TrialDecision where
  | allow
  | denyExpired
  | denyPolicy
  | denyLimit
deriving DecidableEq, Repr

def TrialLicense.effectiveState (license : TrialLicense)
    (nowUnixMs expiringWindowMs : Int) : TrialState :=
  if license.state = .converted then
    .converted
  else if license.expiresAtUnixMs ≤ nowUnixMs then
    .expired
  else if saturatingSub license.expiresAtUnixMs expiringWindowMs ≤
      nowUnixMs then
    .expiring
  else
    .active

/-- The answer to a permission of the policy. -/
def TrialDecision.ofPolicy (allowed : Bool) : TrialDecision :=
  if allowed then .allow else .denyPolicy

/-- The answer to a limit of the policy. -/
def TrialDecision.ofLimit (used most : Nat) : TrialDecision :=
  if used < most then .allow else .denyLimit

def TrialLicense.decide (license : TrialLicense) (action : TrialAction)
    (usage : TrialUsage) (nowUnixMs : Int) : TrialDecision :=
  if license.effectiveState nowUnixMs 0 = .converted then
    .allow
  else if license.expiresAtUnixMs ≤ nowUnixMs then
    if action = .read then .allow else .denyExpired
  else
    match action with
    | .read => .ofPolicy license.policy.allowReadCapabilities
    | .lowRiskMutation => .ofPolicy license.policy.allowLowRiskMutations
    | .criticalMutation => .ofPolicy license.policy.allowCriticalMutations
    | .createDevice => .ofLimit usage.devices license.policy.maxDevices
    | .createSite => .ofLimit usage.sites license.policy.maxSites
    | .createAdminUser =>
        .ofLimit usage.adminUsers license.policy.maxAdminUsers

/-- The policy grants the action at this usage. -/
def TrialPolicy.Grants (policy : TrialPolicy) (usage : TrialUsage) :
    TrialAction → Prop
  | .read => policy.allowReadCapabilities = true
  | .lowRiskMutation => policy.allowLowRiskMutations = true
  | .criticalMutation => policy.allowCriticalMutations = true
  | .createDevice => usage.devices < policy.maxDevices
  | .createSite => usage.sites < policy.maxSites
  | .createAdminUser => usage.adminUsers < policy.maxAdminUsers

/-- Whatever is used, the policy grants no mutation and no creation. -/
def TrialPolicy.GrantsReadsOnly (policy : TrialPolicy) : Prop :=
  policy.allowLowRiskMutations = false ∧
    policy.allowCriticalMutations = false ∧ policy.maxDevices = 0 ∧
      policy.maxSites = 0 ∧ policy.maxAdminUsers = 0

private theorem TrialDecision.ofPolicy_eq_allow_iff (allowed : Bool) :
    ofPolicy allowed = .allow ↔ allowed = true := by
  cases allowed <;> simp [ofPolicy]

private theorem TrialDecision.ofLimit_eq_allow_iff (used most : Nat) :
    ofLimit used most = .allow ↔ used < most := by
  by_cases below : used < most <;> simp [ofLimit, below]

private theorem TrialPolicy.grantsReadsOnly_iff (policy : TrialPolicy) :
    policy.GrantsReadsOnly ↔
      ∀ action usage, action ≠ .read → ¬policy.Grants usage action := by
  constructor
  · rintro ⟨noLowRisk, noCritical, noDevice, noSite, noAdmin⟩ action usage _
    cases action <;> simp_all [Grants]
  · intro refused
    have low := refused .lowRiskMutation ⟨0, 0, 0⟩ (by decide)
    have critical := refused .criticalMutation ⟨0, 0, 0⟩ (by decide)
    have device := refused .createDevice ⟨0, 0, 0⟩ (by decide)
    have site := refused .createSite ⟨0, 0, 0⟩ (by decide)
    have admin := refused .createAdminUser ⟨0, 0, 0⟩ (by decide)
    simp only [Grants, Bool.not_eq_true, Nat.not_lt, Nat.le_zero] at *
    exact ⟨low, critical, device, site, admin⟩

section Licence

variable {license : TrialLicense}

/-- The period has begun, and the stored state is neither inactive nor
expired. -/
def TrialLicense.Started (license : TrialLicense) (nowUnixMs : Int) : Prop :=
  license.state ≠ .inactive ∧ license.state ≠ .expired ∧
    license.startsAtUnixMs ≤ nowUnixMs

/-- The licence is in force. -/
def TrialLicense.InForce (license : TrialLicense) (nowUnixMs : Int) : Prop :=
  license.Started nowUnixMs ∧ nowUnixMs < license.expiresAtUnixMs

private theorem TrialLicense.effectiveState_expired
    (unconverted : license.state ≠ .converted) {nowUnixMs window : Int}
    (ended : license.expiresAtUnixMs ≤ nowUnixMs) :
    license.effectiveState nowUnixMs window = .expired := by
  rw [effectiveState, if_neg unconverted, if_pos ended]

private theorem TrialLicense.effectiveState_running
    (unconverted : license.state ≠ .converted) {nowUnixMs : Int}
    (runs : nowUnixMs < license.expiresAtUnixMs) (window : Int) :
    license.effectiveState nowUnixMs window = .active ∨
      license.effectiveState nowUnixMs window = .expiring := by
  rw [effectiveState, if_neg unconverted, if_neg (Int.not_le.mpr runs)]
  split
  · exact Or.inr rfl
  · exact Or.inl rfl

private theorem TrialLicense.decide_expired
    (unconverted : license.state ≠ .converted)
    {action : TrialAction} {usage : TrialUsage} {nowUnixMs : Int}
    (ended : license.expiresAtUnixMs ≤ nowUnixMs) :
    license.decide action usage nowUnixMs = .allow ↔ action = .read := by
  rw [decide.eq_def, effectiveState_expired unconverted ended,
    if_neg (by decide), if_pos ended]
  by_cases reads : action = .read
  · simp [reads]
  · simp [reads]

private theorem TrialLicense.decide_running
    (unconverted : license.state ≠ .converted)
    {action : TrialAction} {usage : TrialUsage} {nowUnixMs : Int}
    (runs : nowUnixMs < license.expiresAtUnixMs) :
    license.decide action usage nowUnixMs = .allow ↔
      license.policy.Grants usage action := by
  have notConverted : license.effectiveState nowUnixMs 0 ≠ .converted := by
    rcases effectiveState_running unconverted runs 0 with isActive | isExpiring
    · simp [isActive]
    · simp [isExpiring]
  rw [decide.eq_def, if_neg notConverted, if_neg (Int.not_le.mpr runs)]
  cases action with
  | read => exact TrialDecision.ofPolicy_eq_allow_iff _
  | lowRiskMutation => exact TrialDecision.ofPolicy_eq_allow_iff _
  | criticalMutation => exact TrialDecision.ofPolicy_eq_allow_iff _
  | createDevice => exact TrialDecision.ofLimit_eq_allow_iff _ _
  | createSite => exact TrialDecision.ofLimit_eq_allow_iff _ _
  | createAdminUser => exact TrialDecision.ofLimit_eq_allow_iff _ _

/-! ## Gating -/

/-- A mutation or a creation is only allowed while the licence is in force. -/
def TrialLicense.GatesActions (license : TrialLicense) (nowUnixMs : Int) :
    Prop :=
  ∀ action usage, action ≠ .read →
    license.decide action usage nowUnixMs = .allow → license.InForce nowUnixMs

/-- The state is only reported as active or expiring while the licence is in
force. -/
def TrialLicense.ReportsInForce (license : TrialLicense) (nowUnixMs : Int) :
    Prop :=
  ∀ window, license.effectiveState nowUnixMs window = .active ∨
    license.effectiveState nowUnixMs window = .expiring →
      license.InForce nowUnixMs

/-- What is denied within the period is not allowed later. -/
def TrialLicense.DeniesForGood (license : TrialLicense) : Prop :=
  ∀ action usage nowUnixMs laterUnixMs,
    license.startsAtUnixMs ≤ nowUnixMs →
    nowUnixMs < license.expiresAtUnixMs → nowUnixMs ≤ laterUnixMs →
    license.decide action usage nowUnixMs ≠ .allow →
      license.decide action usage laterUnixMs ≠ .allow

private theorem TrialLicense.gatesActions_iff
    (unconverted : license.state ≠ .converted)
    (nowUnixMs : Int) :
    license.GatesActions nowUnixMs ↔
      license.expiresAtUnixMs ≤ nowUnixMs ∨ license.Started nowUnixMs ∨
        license.policy.GrantsReadsOnly := by
  by_cases ended : license.expiresAtUnixMs ≤ nowUnixMs
  · refine iff_of_true ?_ (Or.inl ended)
    intro action usage mutates allowed
    exact absurd ((decide_expired unconverted ended).mp allowed) mutates
  · have runs := Int.not_le.mp ended
    rw [TrialPolicy.grantsReadsOnly_iff]
    constructor
    · intro gates
      right
      by_contra neither
      obtain ⟨notStarted, grants⟩ := not_or.mp neither
      apply grants
      intro action usage mutates granted
      have allowed := (decide_running unconverted runs).mpr granted
      exact notStarted (gates action usage mutates allowed).1
    · rintro (isEnded | started | refuses) action usage mutates allowed
      · exact absurd isEnded ended
      · exact ⟨started, runs⟩
      · exact absurd ((decide_running unconverted runs).mp allowed)
          (refuses action usage mutates)

private theorem TrialLicense.reportsInForce_iff
    (unconverted : license.state ≠ .converted) (nowUnixMs : Int) :
    license.ReportsInForce nowUnixMs ↔
      license.expiresAtUnixMs ≤ nowUnixMs ∨ license.Started nowUnixMs := by
  by_cases ended : license.expiresAtUnixMs ≤ nowUnixMs
  · refine iff_of_true ?_ (Or.inl ended)
    intro window reported
    rw [effectiveState_expired unconverted ended] at reported
    simp at reported
  · have runs := Int.not_le.mp ended
    constructor
    · intro reports
      exact Or.inr
        (reports 0 (effectiveState_running unconverted runs 0)).1
    · rintro (isEnded | started) window _
      · exact absurd isEnded ended
      · exact ⟨started, runs⟩

private theorem TrialLicense.deniesForGood_iff
    (unconverted : license.state ≠ .converted) :
    license.DeniesForGood ↔
      license.policy.allowReadCapabilities = true ∨
        license.expiresAtUnixMs ≤ license.startsAtUnixMs := by
  constructor
  · intro denies
    by_contra neither
    obtain ⟨noReads, period⟩ := not_or.mp neither
    have runs := Int.not_le.mp period
    have denied : license.decide .read ⟨0, 0, 0⟩ license.startsAtUnixMs ≠
        .allow := fun allowed =>
      noReads ((decide_running unconverted runs).mp allowed)
    have regained : license.decide .read ⟨0, 0, 0⟩ license.expiresAtUnixMs =
        .allow := (decide_expired unconverted le_rfl).mpr rfl
    exact denies .read ⟨0, 0, 0⟩ _ _ le_rfl runs runs.le denied regained
  · rintro condition action usage nowUnixMs laterUnixMs begun runs later denied
      allowed
    rw [Ne, decide_running unconverted runs] at denied
    by_cases ended : license.expiresAtUnixMs ≤ laterUnixMs
    · rw [decide_expired unconverted ended] at allowed
      rcases condition with reads | empty
      · rw [allowed] at denied
        exact denied reads
      · omega
    · exact denied
        ((decide_running unconverted (Int.not_le.mp ended)).mp allowed)

/-- At a given time a licence gates mutations and creations if and only if it
has ended, has started, or grants none; it reports its state if and only if it
has ended or has started; and a denial is for good if and only if the policy
grants reads, or the period is empty. -/
theorem trialGating_iff (unconverted : license.state ≠ .converted)
    (nowUnixMs : Int) :
    (license.GatesActions nowUnixMs ↔
      license.expiresAtUnixMs ≤ nowUnixMs ∨ license.Started nowUnixMs ∨
        license.policy.GrantsReadsOnly) ∧
    (license.ReportsInForce nowUnixMs ↔
      license.expiresAtUnixMs ≤ nowUnixMs ∨ license.Started nowUnixMs) ∧
    (license.DeniesForGood ↔
      license.policy.allowReadCapabilities = true ∨
        license.expiresAtUnixMs ≤ license.startsAtUnixMs) :=
  ⟨license.gatesActions_iff unconverted nowUnixMs,
    license.reportsInForce_iff unconverted nowUnixMs,
    license.deniesForGood_iff unconverted⟩

end Licence

namespace Sample

/-- A licence that has not been activated and that starts in a second. -/
def inactive : TrialLicense where
  id := ⟨1⟩
  installationId := ⟨2⟩
  state := .inactive
  startsAtUnixMs := 1000
  expiresAtUnixMs := 2000
  policy := .default

end Sample

/-- The sample licence starts no earlier than it should, and then expires. -/
theorem trialGating_iff_inactive :
    ¬Sample.inactive.GatesActions 0 ∧ Sample.inactive.GatesActions 2000 := by
  have unconverted : Sample.inactive.state ≠ .converted := by decide
  constructor
  · rw [(trialGating_iff unconverted 0).1]
    rintro (ended | started | reads)
    · exact absurd ended (by decide)
    · exact absurd rfl started.1
    · exact absurd reads.2.2.1 (by decide)
  · exact (trialGating_iff unconverted 2000).1.mpr (Or.inl (by decide))

/-- A licence that is inactive, and has not begun, allows a device to be
created. -/
theorem not_trialGating :
    ¬∀ license : TrialLicense, license.state ≠ .converted →
      (∀ nowUnixMs, license.GatesActions nowUnixMs ∧
        license.ReportsInForce nowUnixMs) ∧ license.DeniesForGood := by
  intro gating
  have gated := ((gating Sample.inactive (by decide)).1 0).1
  have inForce := gated .createDevice ⟨0, 0, 0⟩ (by decide) (by decide)
  exact inForce.1.1 rfl

end NetworkManager.Domain.Trial
