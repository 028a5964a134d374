import NetworkManager.InventoryStore.Lifecycles

/-!
# Devices out of service

Nothing that is kept about a retired or archived device changes, except that a
transition takes a retired device back to review or into the archive.  What is
archived stays as it is.
-/

namespace NetworkManager.InventoryStore

open NetworkManager.Foundation
open NetworkManager.Domain.Inventory
open NetworkManager.Transaction

/-- The call takes a retired device back to review or into the archive. -/
def InventoryCall.leavesRetirement : InventoryCall → Uuid → Bool
  | transitionLifecycle _ _ given _ next _, deviceId =>
      given = deviceId && (next = .pendingReview || next = .archived)
  | _, _ => false

section Records

variable {before after : InventoryDb} {call : InventoryCall} {row : DeviceView}
  {events : List LifecycleEvent} {device : DeviceView}

private theorem allowsNormalMutation_of_outOfService
    (out : outOfService device = true) :
    device.lifecycle.allowsNormalMutation = false := by
  rcases outOfService_eq_true_iff.mp out with isRetired | isArchived
  · rw [isRetired]
    rfl
  · rw [isArchived]
    rfl

/-- A call that writes the row of a device out of service is a transition from
retirement. -/
theorem Revises.leavesRetirement (revises : Revises before call row events)
    (found : before.devices.lookup row.id = some device)
    (out : outOfService device = true) :
    device.lifecycle = .retired ∧ call.leavesRetirement row.id = true := by
  cases revises with
  | manual absent => exact nomatch absent.symm.trans found
  | discovered absent => exact nomatch absent.symm.trans found
  | metadata isRow allowed =>
      cases isRow.symm.trans found
      rw [allowsNormalMutation_of_outOfService out] at allowed
      cases allowed
  | observed declared isRow inService =>
      cases isRow.symm.trans found
      rw [inService] at out
      cases out
  | @lifecycle context generated next reason current isRow different allowed =>
      cases isRow.symm.trans found
      rcases outOfService_eq_true_iff.mp out with isRetired | isArchived
      · rw [isRetired] at different allowed
        have goesOn := DeviceLifecycle.of_retired different allowed
        have leaves : (InventoryCall.transitionLifecycle context generated
            device.id device.version next reason).leavesRetirement device.id =
              true := by
          simpa [InventoryCall.leavesRetirement] using goesOn
        exact ⟨isRetired, leaves⟩
      · exact absurd isArchived
          (DeviceLifecycle.ne_archived_of_canTransitionTo different allowed)

/-- A call leaves the record of a device out of service as it is, unless it
takes the device out of retirement. -/
theorem Revised.frozen (revised : Revised call before after)
    (found : before.devices.lookup device.id = some device)
    (out : outOfService device = true) :
    after.record device.id = before.record device.id ∨
      device.lifecycle = .retired ∧
        call.leavesRetirement device.id = true := by
  rcases revised with ⟨row, events, revises, recorded⟩
  by_cases same : device.id = row.id
  · right
    rw [same] at found ⊢
    exact revises.leavesRetirement found out
  · left
    exact recorded.others device.id same

/-- The records of archived devices are as they were. -/
def KeepsArchived (before after : InventoryDb) : Prop :=
  ∀ device, before.devices.lookup device.id = some device →
    device.lifecycle = .archived →
    after.record device.id = before.record device.id

private theorem KeepsArchived.refl (db : InventoryDb) : KeepsArchived db db :=
  fun _ _ _ => rfl

private theorem KeepsArchived.trans {first middle last : InventoryDb}
    (early : KeepsArchived first middle) (late : KeepsArchived middle last) :
    KeepsArchived first last := by
  intro device found isArchived
  have sameEarly := early device found isArchived
  have stillFound : middle.devices.lookup device.id = some device :=
    (congrArg DeviceRecord.row sameEarly).trans found
  exact (late device stillFound isArchived).trans sameEarly

private theorem Revised.keepsArchived (revised : Revised call before after) :
    KeepsArchived before after := by
  intro device found isArchived
  have out : outOfService device = true :=
    outOfService_eq_true_iff.mpr (Or.inr isArchived)
  rcases revised.frozen found out with same | ⟨isRetired, _⟩
  · exact same
  · rw [isArchived] at isRetired
    cases isRetired

end Records

/-- What is kept about devices out of service, through the commits that led to
a state. -/
structure Frozen {library : InventoryLibrary}
    (commits : List (Commit (inventoryClient library)))
    (last : InventoryDb) : Prop where
  /-- A call that commits leaves a device out of service as it is, unless it
  takes that device from retirement to review or into the archive. -/
  frozen : ∀ commit ∈ commits,
    ∀ device ∈ (InventoryDb.devices commit.before).rows,
    outOfService device = true →
    InventoryDb.record commit.after device.id =
        InventoryDb.record commit.before device.id ∨
      device.lifecycle = .retired ∧
        InventoryCall.leavesRetirement commit.call device.id = true
  /-- Once a device is archived, nothing of it changes. -/
  archived : ∀ earlier : InventoryDb, History.Visits commits last earlier →
    ∀ device ∈ earlier.devices.rows, device.lifecycle = .archived →
    last.record device.id = earlier.record device.id

/-- Whatever calls run at once, devices out of service are frozen. -/
theorem frozen_of_reachable {library : InventoryLibrary}
    {initial : InventoryDb → Prop}
    {system : System (inventoryClient library) deviceLocking}
    (reachable : System.Reachable initial system) :
    Frozen system.commits system.committed := by
  rcases recordHistory_of_reachable reachable with ⟨first, _, history⟩
  constructor
  case frozen =>
    intro commit member device isDevice out
    exact (history.made_of_mem member).frozen (Table.lookup_of_mem isDevice)
      out
  case archived =>
    intro earlier visited device member isArchived
    have keeps := (history.visits_ordered KeepsArchived.refl
      (fun _ _ _ => KeepsArchived.trans)
      (fun _ => Revised.keepsArchived)).1 earlier visited
    exact keeps device (Table.lookup_of_mem member) isArchived

/-- A device is retired while another one is found, and is then archived while
the other one goes on to review. -/
theorem frozen_lived : Frozen Sample.living Sample.lived :=
  frozen_of_reachable Sample.system_lived

end NetworkManager.InventoryStore
