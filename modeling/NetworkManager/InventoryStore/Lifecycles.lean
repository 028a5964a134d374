import NetworkManager.InventoryStore.Versions

/-!
# Lives of devices

The events of a device, in the order of their commits, are a path through the
life cycle that ends where its row is, and the dates in the row are those that
its state asks for.  This holds whatever calls run at once.
-/

namespace NetworkManager.InventoryStore

open NetworkManager.Foundation
open NetworkManager.Domain.Inventory
open NetworkManager.Transaction

/-- The events lead from the beginning of a life to a state. -/
inductive Leads : List LifecycleEvent → DeviceLifecycle → Prop
  | created {event : LifecycleEvent} :
      event.fromState = none → Leads [event] event.toState
  | moved {events : List LifecycleEvent} {current : DeviceLifecycle}
      {event : LifecycleEvent} :
      Leads events current → event.fromState = some current →
      current ≠ event.toState →
      current.canTransitionTo event.toState = true →
      Leads (events ++ [event]) event.toState

/-- The dates of a row are those of its state. -/
structure DeviceView.Dated (device : DeviceView) : Prop where
  outOfService : device.retiredAt.isSome ∨ device.retirementReason.isSome →
    device.lifecycle = .retired ∨ device.lifecycle = .archived
  retired : device.lifecycle = .retired →
    device.retiredAt.isSome ∧
      ∃ reason, device.retirementReason = some reason ∧ isBlank reason = false
  onboarded : device.lifecycle = .managed ∨ device.lifecycle = .maintenance →
    device.onboardedAt.isSome

namespace DeviceLifecycle

theorem ne_archived_of_canTransitionTo {current next : DeviceLifecycle}
    (different : current ≠ next)
    (allowed : current.canTransitionTo next = true) : current ≠ .archived := by
  rintro rfl
  cases next <;> simp_all [DeviceLifecycle.canTransitionTo]

/-- A retired device can only be reviewed or archived. -/
theorem of_retired {next : DeviceLifecycle} (different : .retired ≠ next)
    (allowed : DeviceLifecycle.retired.canTransitionTo next = true) :
    next = .pendingReview ∨ next = .archived := by
  cases next <;> simp_all [DeviceLifecycle.canTransitionTo]

/-- Maintenance is entered from a managed device. -/
theorem to_maintenance {current : DeviceLifecycle}
    (different : current ≠ .maintenance)
    (allowed : current.canTransitionTo .maintenance = true) :
    current = .managed := by
  cases current <;> simp_all [DeviceLifecycle.canTransitionTo]

end DeviceLifecycle

theorem outOfService_eq_true_iff {device : DeviceView} :
    outOfService device = true ↔
      device.lifecycle = .retired ∨ device.lifecycle = .archived := by
  simp [outOfService]

/-- A cleaned text is not blank. -/
theorem isBlank_of_cleanOptional {value : Option String} {cleaned : String}
    (isCleaned : cleanOptional value = some cleaned) :
    isBlank cleaned = false := by
  rcases Option.bind_eq_some_iff.mp isCleaned with ⟨given, _, trimmed⟩
  by_cases blank : (trim given).isEmpty = true
  · simp [blank] at trimmed
  · rw [if_neg blank] at trimmed
    cases trimmed
    rw [isBlank, trim_trim]
    simpa using blank

/-- A reason that is asked for has been given. -/
theorem exists_reason {next : DeviceLifecycle} {reason : Option String}
    (out : next = .retired ∨ next = .archived)
    (given : reasonGiven next (cleanOptional reason) = true) :
    ∃ text, cleanOptional reason = some text ∧ isBlank text = false := by
  cases cleaned : cleanOptional reason with
  | none =>
      rw [cleaned] at given
      rcases out with rfl | rfl <;> simp [reasonGiven] at given
  | some text => exact ⟨text, rfl, isBlank_of_cleanOptional cleaned⟩

section Dates

variable {context : MutationContext} {generated : Generated}
  {current : DeviceView}

private theorem dated_manualRow (input : NewDevice) (approvalRequired : Bool) :
    (manualRow context generated input approvalRequired).Dated := by
  cases approvalRequired with
  | false => exact ⟨by simp [manualRow], by simp [manualRow], by simp [manualRow]⟩
  | true => exact ⟨by simp [manualRow], by simp [manualRow], by simp [manualRow]⟩

private theorem dated_observedRow (observation : DeviceObservation)
    (observedAt : Timestamp) :
    (observedRow context generated observation observedAt).Dated :=
  ⟨by simp [observedRow], by simp [observedRow], by simp [observedRow]⟩

private theorem DeviceView.Dated.setLifecycle {next : DeviceLifecycle}
    {reason : Option String} {now : Timestamp} (dated : current.Dated)
    (different : current.lifecycle ≠ next)
    (allowed : current.lifecycle.canTransitionTo next = true)
    (given : reasonGiven next (cleanOptional reason) = true) :
    (setLifecycle next (cleanOptional reason) now current).Dated := by
  constructor
  · intro isSet
    by_cases toRetired : next = .retired
    · exact Or.inl toRetired
    · by_cases reopened : current.lifecycle = .retired ∧ next = .pendingReview
      · simp [InventoryStore.setLifecycle, reopened] at isSet
      · simp only [InventoryStore.setLifecycle, if_neg toRetired,
          if_neg reopened] at isSet ⊢
        -- the dates are the ones before, so the device was out of service
        rcases dated.outOfService isSet with wasRetired | wasArchived
        · rw [wasRetired] at different allowed
          rcases DeviceLifecycle.of_retired different allowed with
            toReview | toArchive
          · exact absurd ⟨wasRetired, toReview⟩ reopened
          · exact Or.inr toArchive
        · exact absurd wasArchived
            (DeviceLifecycle.ne_archived_of_canTransitionTo different allowed)
  · intro isRetired
    have toRetired : next = .retired := isRetired
    have reasoned := exists_reason (Or.inl toRetired) given
    simpa [InventoryStore.setLifecycle, toRetired] using reasoned
  · intro inUse
    rcases inUse with toManaged | toMaintenance
    · have isManaged : next = .managed := toManaged
      simp [InventoryStore.setLifecycle, isManaged]
    · have isMaintenance : next = .maintenance := toMaintenance
      rw [isMaintenance] at different allowed
      have wasManaged := DeviceLifecycle.to_maintenance different allowed
      simpa [InventoryStore.setLifecycle, isMaintenance] using
        dated.onboarded (Or.inl wasManaged)

end Dates

/-! ## One record -/

/-- The events of a device lead to the state of its row, whose dates fit. -/
structure DeviceRecord.Lives (record : DeviceRecord) : Prop where
  absent : record.row = none → record.events = []
  path : ∀ device, record.row = some device →
    Leads record.events device.lifecycle
  dated : ∀ device, record.row = some device → device.Dated

section Records

variable {before after : InventoryDb} {call : InventoryCall} {row : DeviceView}
  {events : List LifecycleEvent}

theorem Revises.subject (revises : Revises before call row events) :
    ∀ event ∈ events, event.deviceId = row.id := by
  cases revises with
  | metadata found allowed => simp
  | observed declared found inService => simp
  | manual absent =>
      intro event member
      rw [List.mem_singleton.mp member]
      rfl
  | lifecycle found different allowed given =>
      intro event member
      rw [List.mem_singleton.mp member]
      rfl
  | discovered absent =>
      intro event member
      rw [List.mem_singleton.mp member]
      rfl

/-- The record of the device itself after a revision. -/
theorem Recorded.row_eq (recorded : Recorded row events before after) :
    (after.record row.id).row = some row :=
  (lookup_of_put recorded.devices row.id).trans (if_pos rfl)

theorem Recorded.events_eq (recorded : Recorded row events before after)
    (subject : ∀ event ∈ events, event.deviceId = row.id) :
    (after.record row.id).events = (before.record row.id).events ++ events := by
  have allKept : (events.filter fun event => event.deviceId = row.id) =
      events := by
    apply List.filter_eq_self.mpr
    intro event member
    simpa using subject event member
  simp only [InventoryDb.record, InventoryDb.eventsOf]
  rw [recorded.lifecycleEvents, List.filter_append, allKept]

/-- What a revision makes of a life is a life again. -/
theorem Revises.lives (revises : Revises before call row events)
    (lives : (before.record row.id).Lives) :
    Leads ((before.record row.id).events ++ events) row.lifecycle ∧
      row.Dated := by
  cases revises with
  | @manual context generated input approvalRequired absent =>
      rw [lives.absent absent]
      exact ⟨.created rfl, dated_manualRow input approvalRequired⟩
  | @discovered context generated observation absent =>
      rw [lives.absent absent]
      exact ⟨.created rfl, dated_observedRow observation _⟩
  | metadata found allowed =>
      have leads := lives.path _ found
      have dated := lives.dated _ found
      rw [List.append_nil]
      exact ⟨leads, dated.outOfService, dated.retired, dated.onboarded⟩
  | observed declared found inService =>
      have leads := lives.path _ found
      have dated := lives.dated _ found
      rw [List.append_nil]
      exact ⟨leads, dated.outOfService, dated.retired, dated.onboarded⟩
  | lifecycle found different allowed given =>
      exact ⟨.moved (lives.path _ found) rfl different allowed,
        (lives.dated _ found).setLifecycle different allowed given⟩

private theorem Revised.lives (revised : Revised call before after)
    (lives : ∀ deviceId, (before.record deviceId).Lives) (deviceId : Uuid) :
    (after.record deviceId).Lives := by
  rcases revised with ⟨row, events, revises, recorded⟩
  by_cases same : deviceId = row.id
  · subst same
    rcases revises.lives (lives row.id) with ⟨leads, dated⟩
    have isRow := recorded.row_eq
    have isEvents := recorded.events_eq revises.subject
    constructor
    · intro absent
      rw [isRow] at absent
      cases absent
    · intro device found
      rw [isRow] at found
      cases found
      rw [isEvents]
      exact leads
    · intro device found
      rw [isRow] at found
      cases found
      exact dated
  · rw [recorded.others deviceId same]
    exact lives deviceId

/-- Devices stay, and so does the time at which they were onboarded. -/
def KeepsOnboarding (before after : InventoryDb) : Prop :=
  ∀ deviceId device time, before.devices.lookup deviceId = some device →
    device.onboardedAt = some time →
    ∃ later, after.devices.lookup deviceId = some later ∧
      later.onboardedAt = some time

private theorem KeepsOnboarding.refl
    (db : InventoryDb) : KeepsOnboarding db db :=
  fun _ device _ found onboarded => ⟨device, found, onboarded⟩

private theorem KeepsOnboarding.trans {first middle last : InventoryDb}
    (early : KeepsOnboarding first middle)
    (late : KeepsOnboarding middle last) : KeepsOnboarding first last := by
  intro deviceId device time found onboarded
  rcases early deviceId device time found onboarded with
    ⟨between, foundBetween, onboardedBetween⟩
  exact late deviceId between time foundBetween onboardedBetween

private theorem Revises.keepsOnboarding
    (revises : Revises before call row events)
    {device : DeviceView} {time : Timestamp}
    (found : before.devices.lookup row.id = some device)
    (onboarded : device.onboardedAt = some time) :
    row.onboardedAt = some time := by
  cases revises with
  | manual absent => exact nomatch absent.symm.trans found
  | discovered absent => exact nomatch absent.symm.trans found
  | metadata isRow allowed =>
      cases isRow.symm.trans found
      exact onboarded
  | observed declared isRow inService =>
      cases isRow.symm.trans found
      exact onboarded
  | @lifecycle context generated next reason current isRow =>
      cases isRow.symm.trans found
      by_cases toManaged : next = .managed
      · simp [lifecycleChange, setLifecycle, toManaged, onboarded]
      · simp [lifecycleChange, setLifecycle, toManaged, onboarded]

private theorem Revised.keepsOnboarding (revised : Revised call before after) :
    KeepsOnboarding before after := by
  rcases revised with ⟨row, events, revises, recorded⟩
  intro deviceId device time found onboarded
  by_cases same : deviceId = row.id
  · subst same
    exact ⟨row, recorded.row_eq, revises.keepsOnboarding found onboarded⟩
  · have sameRow := congrArg DeviceRecord.row (recorded.others deviceId same)
    exact ⟨device, sameRow.trans found, onboarded⟩

end Records

/-- The lives of all devices, through the commits that led to a state. -/
structure LivesSound {library : InventoryLibrary}
    (commits : List (Commit (inventoryClient library)))
    (last : InventoryDb) : Prop where
  /-- The events lead from nothing to the state of the row. -/
  path : ∀ device ∈ last.devices.rows,
    Leads (last.eventsOf device.id) device.lifecycle
  /-- The retirement and the onboarding are dated as the state asks for. -/
  dated : ∀ device ∈ last.devices.rows, device.Dated
  /-- Once set, the time of the onboarding never changes. -/
  onboardedOnce : ∀ earlier : InventoryDb,
    History.Visits commits last earlier →
    ∀ device ∈ earlier.devices.rows, ∀ time,
      device.onboardedAt = some time →
      ∃ later ∈ last.devices.rows, later.id = device.id ∧
        later.onboardedAt = some time

private theorem InventoryDb.IsEmpty.lives
    {db : InventoryDb} (isEmpty : db.IsEmpty)
    (deviceId : Uuid) : (db.record deviceId).Lives := by
  have noRow : (db.record deviceId).row = none := by
    apply Table.lookup_eq_none_iff.mpr
    simp [isEmpty.devices]
  have noEvents : (db.record deviceId).events = [] := by
    simp [InventoryDb.record, InventoryDb.eventsOf, isEmpty.lifecycleEvents]
  have noDevice : ∀ device, (db.record deviceId).row ≠ some device := by
    simp [noRow]
  exact ⟨fun _ => noEvents, fun device found => absurd found (noDevice device),
    fun device found => absurd found (noDevice device)⟩

theorem lives_of_history {library : InventoryLibrary}
    {first last : InventoryDb}
    {commits : List (Commit (inventoryClient library))}
    (history : RecordHistory first commits last) (isEmpty : first.IsEmpty)
    (deviceId : Uuid) : (last.record deviceId).Lives :=
  history.invariant (fun db => ∀ deviceId, (db.record deviceId).Lives)
    isEmpty.lives (fun _ revised => revised.lives) deviceId

/-- Whatever calls run at once, the lives of the devices are sound. -/
theorem livesSound_of_reachable {library : InventoryLibrary}
    {system : System (inventoryClient library) deviceLocking}
    (reachable : System.Reachable InventoryDb.IsEmpty system) :
    LivesSound system.commits system.committed := by
  rcases recordHistory_of_reachable reachable with ⟨first, isEmpty, history⟩
  have lives := lives_of_history history isEmpty
  constructor
  case path =>
    intro device member
    exact (lives device.id).path device (Table.lookup_of_mem member)
  case dated =>
    intro device member
    exact (lives device.id).dated device (Table.lookup_of_mem member)
  case onboardedOnce =>
    intro earlier visited device member time onboarded
    have keeps := (history.visits_ordered KeepsOnboarding.refl
      (fun _ _ _ => KeepsOnboarding.trans)
      (fun _ => Revised.keepsOnboarding)).1 earlier visited
    rcases keeps device.id device time (Table.lookup_of_mem member)
      onboarded with ⟨later, found, kept⟩
    exact ⟨later, Table.mem_of_lookup found, Table.key_of_lookup found, kept⟩

theorem livesSound_lived : LivesSound Sample.living Sample.lived :=
  livesSound_of_reachable Sample.system_lived

end NetworkManager.InventoryStore
