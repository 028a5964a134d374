import NetworkManager.InventoryStore.Commits
import NetworkManager.InventoryStore.Reconciliation

/-!
# Versions of devices

Every operation that writes a device row locks it first, by `FOR UPDATE`, by
the insertion or by the update itself.  Under these locks each commit raises
the version of one row by one, or adds a row with version one, in every
interleaving of calls.  So a version names one content of a row, and at most
one call that expects it changes the row.
-/

namespace NetworkManager.InventoryStore

open NetworkManager.Foundation
open NetworkManager.Domain.Inventory
open NetworkManager.Transaction

/-- The rows that the calls write, from the rows that they find. -/
inductive WritesRow (db : InventoryDb) : InventoryCall → DeviceView → Prop
  | manual {context : MutationContext} {generated : Generated}
      {input : NewDevice} {approvalRequired : Bool} :
      db.devices.lookup generated.deviceId = none →
      WritesRow db (.createManual context generated input approvalRequired)
        (manualRow context generated input approvalRequired)
  | metadata {context : MutationContext} {generated : Generated}
      {patch : MetadataPatch} {current : DeviceView} :
      db.devices.lookup current.id = some current →
      WritesRow db (.updateMetadata context generated current.id
        current.version patch) (metadataChange context generated patch
          current).device
  | lifecycle {context : MutationContext} {generated : Generated}
      {next : DeviceLifecycle} {reason : Option String}
      {current : DeviceView} :
      db.devices.lookup current.id = some current →
      WritesRow db (.transitionLifecycle context generated current.id
        current.version next reason) (lifecycleChange context generated next
          reason current).device
  | observed {context : MutationContext} {generated : Generated}
      {observation : DeviceObservation} {current : DeviceView}
      (declared : Field → Bool) :
      db.devices.lookup current.id = some current →
      WritesRow db (.reconcileObservation context generated observation)
        (observedChange context generated observation declared current).device
  | discovered {context : MutationContext} {generated : Generated}
      {observation : DeviceObservation} :
      db.devices.lookup generated.deviceId = none →
      WritesRow db (.reconcileObservation context generated observation)
        (discoveredChange context generated observation).device

/-- A call writes one row. -/
def Rewrites (call : InventoryCall) (before after : InventoryDb) : Prop :=
  ∃ row, WritesRow before call row ∧ after.devices = before.devices.put row

/-- What a call writes to a record, it writes to the row. -/
theorem Revises.writesRow {db : InventoryDb} {call : InventoryCall}
    {row : DeviceView} {events : List LifecycleEvent}
    (revises : Revises db call row events) : WritesRow db call row := by
  cases revises with
  | manual absent => exact .manual absent
  | metadata found allowed => exact .metadata found
  | lifecycle found different allowed given => exact .lifecycle found
  | observed declared found inService => exact .observed declared found
  | discovered absent => exact .discovered absent

theorem Revised.rewrites {call : InventoryCall} {before after : InventoryDb}
    (revised : Revised call before after) : Rewrites call before after := by
  rcases revised with ⟨row, events, revises, recorded⟩
  exact ⟨row, revises.writesRow, recorded.devices⟩

namespace InventoryCall

/-- The call asks for a version of a device. -/
def expects : InventoryCall → Uuid → Int → Bool
  | updateMetadata _ _ given expectedVersion _, deviceId, version =>
      given = deviceId && expectedVersion = version
  | transitionLifecycle _ _ given expectedVersion _ _, deviceId, version =>
      given = deviceId && expectedVersion = version
  | _, _, _ => false

/-- What a call that asks for a version makes of the row with that version. -/
def edited : InventoryCall → DeviceView → DeviceView
  | updateMetadata context generated _ _ patch, row =>
      (metadataChange context generated patch row).device
  | transitionLifecycle context generated _ _ next reason, row =>
      (lifecycleChange context generated next reason row).device
  | _, row => row

end InventoryCall

/-- The committed call has asked for a version of a device. -/
def expectsVersion {library : InventoryLibrary} (deviceId : Uuid)
    (version : Int) (commit : Commit (inventoryClient library)) : Bool :=
  InventoryCall.expects commit.call deviceId version

/-- A row is added with version one, or its version is raised by one. -/
def RaisesVersion (before after : Option DeviceView) : Prop :=
  match before, after with
  | none, some row => row.version = 1
  | some old, some row => row.version = old.version + 1
  | _, none => False

section Rows

variable {before after : InventoryDb} {call : InventoryCall} {row : DeviceView}

private theorem RaisesVersion.ofNew
    (absent : before.devices.lookup row.id = none)
    (isFirst : row.version = 1) :
    RaisesVersion (before.devices.lookup row.id) (some row) := by
  rw [absent]
  exact isFirst

private theorem RaisesVersion.ofOld {old : DeviceView}
    (found : before.devices.lookup row.id = some old)
    (isNext : row.version = old.version + 1) :
    RaisesVersion (before.devices.lookup row.id) (some row) := by
  rw [found]
  exact isNext

private theorem WritesRow.raises (writes : WritesRow before call row) :
    RaisesVersion (before.devices.lookup row.id) (some row) := by
  cases writes with
  | manual absent => exact .ofNew absent rfl
  | metadata found => exact .ofOld found rfl
  | lifecycle found => exact .ofOld found rfl
  | observed declared found => exact .ofOld found rfl
  | discovered absent => exact .ofNew absent rfl

/-- A call that asks for a version finds it, and edits the row that has it. -/
theorem WritesRow.edits (writes : WritesRow before call row) {deviceId : Uuid}
    {version : Int} (expected : call.expects deviceId version = true) :
    ∃ current, before.devices.lookup deviceId = some current ∧
      current.version = version ∧ row.id = deviceId ∧
      row = call.edited current := by
  cases writes with
  | manual absent => cases expected
  | observed declared found => cases expected
  | discovered absent => cases expected
  | @metadata context generated patch current found =>
      have same : current.id = deviceId ∧ current.version = version := by
        simpa [InventoryCall.expects] using expected
      rcases same with ⟨rfl, rfl⟩
      exact ⟨current, found, rfl, rfl, rfl⟩
  | @lifecycle context generated next reason current found =>
      have same : current.id = deviceId ∧ current.version = version := by
        simpa [InventoryCall.expects] using expected
      rcases same with ⟨rfl, rfl⟩
      exact ⟨current, found, rfl, rfl, rfl⟩

theorem lookup_of_put (puts : after.devices = before.devices.put row)
    (deviceId : Uuid) :
    after.devices.lookup deviceId =
      if row.id = deviceId then some row
      else before.devices.lookup deviceId := by
  rw [puts]
  exact Table.lookup_put ..

/-- Every row is still there, with a later version or as it was. -/
def Succeeds (before after : InventoryDb) : Prop :=
  ∀ deviceId row, before.devices.lookup deviceId = some row →
    ∃ later, after.devices.lookup deviceId = some later ∧
      row.version ≤ later.version ∧ (later.version = row.version → later = row)

theorem Succeeds.refl (db : InventoryDb) : Succeeds db db :=
  fun _ row found => ⟨row, found, le_refl _, fun _ => rfl⟩

theorem Succeeds.trans {first middle last : InventoryDb}
    (early : Succeeds first middle) (late : Succeeds middle last) :
    Succeeds first last := by
  intro deviceId row found
  rcases early deviceId row found with ⟨middleRow, middleFound, atLeast, same⟩
  rcases late deviceId middleRow middleFound with
    ⟨lastRow, lastFound, atLeastLast, sameLast⟩
  refine ⟨lastRow, lastFound, atLeast.trans atLeastLast, ?_⟩
  intro sameVersion
  have middleVersion : middleRow.version = row.version := by omega
  rw [sameLast (by omega), same middleVersion]

private theorem Rewrites.succeeds (rewrites : Rewrites call before after) :
    Succeeds before after := by
  rcases rewrites with ⟨row, writes, puts⟩
  intro deviceId old found
  have lookup := lookup_of_put puts deviceId
  by_cases same : row.id = deviceId
  · have raises := writes.raises
    rw [same, found] at raises
    have raised : row.version = old.version + 1 := raises
    rw [if_pos same] at lookup
    exact ⟨row, lookup, by omega, by omega⟩
  · rw [if_neg same] at lookup
    exact ⟨old, lookup.trans found, le_refl _, fun _ => rfl⟩

end Rows

section History

variable {library : InventoryLibrary} {first last : InventoryDb}
  {commits : List (Commit (inventoryClient library))}

/-- A history in which each commit writes one row. -/
abbrev RowHistory (first : InventoryDb)
    (commits : List (Commit (inventoryClient library)))
    (last : InventoryDb) : Prop :=
  History (fun commit => Rewrites commit.call commit.before commit.after) first
    commits last

/-- A version that a committed call has asked for is gone. -/
theorem version_lt_of_expected
    (history : RowHistory first commits last)
    {deviceId : Uuid} {version : Int} {commit : Commit (inventoryClient library)}
    (member : commit ∈ commits)
    (expected : expectsVersion deviceId version commit = true) :
    ∃ row, last.devices.lookup deviceId = some row ∧ version < row.version := by
  induction history with
  | nil => cases member
  | cons _ rewrites inductionHypothesis =>
      rcases List.mem_cons.mp member with rfl | old
      · rcases rewrites with ⟨row, writes, puts⟩
        rcases writes.edits expected with ⟨current, found, isVersion, isRow, _⟩
        have raises := writes.raises
        rw [isRow, found] at raises
        have raised : row.version = current.version + 1 := raises
        exact ⟨row, (lookup_of_put puts deviceId).trans (if_pos isRow),
          by omega⟩
      · rcases inductionHypothesis old with ⟨row, found, isLater⟩
        rcases rewrites.succeeds deviceId row found with
          ⟨later, laterFound, atLeast, _⟩
        exact ⟨later, laterFound, by omega⟩

/-- At most one committed call has asked for a version. -/
theorem expected_once
    (history : RowHistory first commits last) (deviceId : Uuid) (version : Int) :
    (commits.filter (expectsVersion deviceId version)).length ≤ 1 := by
  induction history with
  | nil => exact Nat.zero_le 1
  | @cons commit commits past rewrites inductionHypothesis =>
      by_cases expected : expectsVersion deviceId version commit = true
      · rw [List.filter_cons_of_pos expected]
        have noOther :
            commits.filter (expectsVersion deviceId version) = [] := by
          rw [List.filter_eq_nil_iff]
          intro other member also
          rcases version_lt_of_expected past member also with
            ⟨row, found, isLater⟩
          rcases rewrites with ⟨written, writes, _⟩
          rcases writes.edits expected with ⟨current, isCurrent, isVersion, _⟩
          rw [found] at isCurrent
          cases isCurrent
          omega
        rw [noOther]
        exact Nat.le_refl 1
      · rw [List.filter_cons_of_neg expected]
        exact inductionHypothesis

end History

/-! ## Reads and edits -/

/-- `get` returns the device from this state. -/
def Reads (db : InventoryDb) (device : DeviceView) : Prop :=
  ∃ scope, ((get scope device.id).call db).1 = .ok (some device)

/-- What can be read are the rows. -/
theorem reads_iff {db : InventoryDb} {device : DeviceView} :
    Reads db device ↔ device ∈ db.devices.rows := by
  have answer (scope : Scope) : ((get scope device.id).call db).1 =
      .ok (db.deviceIn scope device.id) := rfl
  constructor
  · rintro ⟨scope, reads⟩
    rw [answer] at reads
    have found := deviceIn_eq_some_iff.mp (Except.ok.inj reads)
    exact Table.mem_of_lookup found.1
  · intro member
    refine ⟨device.scope, ?_⟩
    rw [answer, deviceIn_eq_some_iff.mpr ⟨Table.lookup_of_mem member, rfl⟩]

/-- A version names one content of a row, through all the commits that led to
a state. -/
structure VersionsSound {library : InventoryLibrary}
    (commits : List (Commit (inventoryClient library)))
    (last : InventoryDb) : Prop where
  /-- Each commit raises the version of one row by one, or adds a row. -/
  raised : ∀ commit ∈ commits, ∃ deviceId,
    RaisesVersion ((InventoryDb.devices commit.before).lookup deviceId)
      ((InventoryDb.devices commit.after).lookup deviceId) ∧
    ∀ other, other ≠ deviceId →
      (InventoryDb.devices commit.after).lookup other =
        (InventoryDb.devices commit.before).lookup other
  /-- Reads of one version of a device at any times agree. -/
  reads : ∀ left right : InventoryDb, History.Visits commits last left →
    History.Visits commits last right → ∀ old new, Reads left old →
    Reads right new → old.id = new.id → old.version = new.version → old = new
  /-- At most one committed call has asked for a version of a device. -/
  once : ∀ deviceId version,
    (commits.filter (expectsVersion deviceId version)).length ≤ 1
  /-- Such a call has edited the row with that version. -/
  edited : ∀ commit ∈ commits, ∀ deviceId version,
    expectsVersion deviceId version commit = true →
    ∃ row, (InventoryDb.devices commit.before).lookup deviceId = some row ∧
      row.version = version ∧
      (InventoryDb.devices commit.after).lookup deviceId =
        some (InventoryCall.edited commit.call row)

/-- Whatever calls run at once, versions are sound and no update is lost. -/
theorem versionsSound_of_reachable {library : InventoryLibrary}
    {initial : InventoryDb → Prop}
    {system : System (inventoryClient library) deviceLocking}
    (reachable : System.Reachable initial system) :
    VersionsSound system.commits system.committed := by
  rcases recordHistory_of_reachable reachable with ⟨first, _, recordHistory⟩
  have history : RowHistory first system.commits system.committed :=
    recordHistory.mono fun _ => Revised.rewrites
  constructor
  case raised =>
    intro commit member
    rcases history.made_of_mem member with ⟨row, writes, puts⟩
    refine ⟨row.id, ?_, ?_⟩
    · have isRow := (lookup_of_put puts row.id).trans (if_pos rfl)
      rw [isRow]
      exact writes.raises
    · intro other different
      exact (lookup_of_put puts other).trans (if_neg (Ne.symm different))
  case reads =>
    intro left right leftVisited rightVisited old new oldRead newRead sameId
      sameVersion
    have oldFound := Table.lookup_of_mem (reads_iff.mp oldRead)
    have newFound := Table.lookup_of_mem (reads_iff.mp newRead)
    have ordered := (history.visits_ordered Succeeds.refl
      (fun _ _ _ => Succeeds.trans) (fun _ => Rewrites.succeeds)).2
        left right leftVisited rightVisited
    rcases ordered with succeeds | succeeds
    · rcases succeeds old.id old oldFound with ⟨later, found, _, same⟩
      rw [sameId, newFound] at found
      cases found
      exact (same sameVersion.symm).symm
    · rcases succeeds new.id new newFound with ⟨later, found, _, same⟩
      rw [← sameId, oldFound] at found
      cases found
      exact same sameVersion
  case once => exact expected_once history
  case edited =>
    intro commit member deviceId version expected
    rcases history.made_of_mem member with ⟨row, writes, puts⟩
    rcases writes.edits expected with
      ⟨current, found, isVersion, isDevice, isEdited⟩
    refine ⟨current, found, isVersion, ?_⟩
    rw [← isEdited]
    exact (lookup_of_put puts deviceId).trans (if_pos isDevice)

namespace Sample

/-- The commits of calls that run one after another, the last one first. -/
def commitsFrom : InventoryDb → List InventoryCall →
    List (Commit (inventoryClient livedLibrary))
  | _, [] => []
  | db, call :: rest =>
      let ended := ((inventoryClient livedLibrary).program call).call db
      commitsFrom ended.2 rest ++ [⟨call, db, ended.2, .done ended.1⟩]

/-- Every call returns a result, and announces what it changed. -/
def allCommit : InventoryDb → List InventoryCall → Bool
  | _, [] => true
  | db, call :: rest =>
      let ended := ((inventoryClient livedLibrary).program call).call db
      ended.1.isOk &&
        decide (ended.2.outbox.events.rows.length ≠
          db.outbox.events.rows.length) &&
        allCommit ended.2 rest

private theorem system_commitsFrom {calls : List InventoryCall} :
    ∀ {db : InventoryDb} {commits : List (Commit (inventoryClient livedLibrary))},
      allCommit db calls = true →
      System.Reachable InventoryDb.IsEmpty
        (System.idle db commits :
          System (inventoryClient livedLibrary) deviceLocking) →
      System.Reachable InventoryDb.IsEmpty
        (System.idle ((inventoryClient livedLibrary).run db (alone calls))
          (commitsFrom db calls ++ commits) :
          System (inventoryClient livedLibrary) deviceLocking) := by
  induction calls with
  | nil => exact fun _ reachable => reachable
  | cons call rest inductionHypothesis =>
      intro db commits allCommit reachable
      rw [Sample.allCommit, Bool.and_eq_true, Bool.and_eq_true] at allCommit
      obtain ⟨⟨isOk, announced⟩, restCommit⟩ := allCommit
      rcases ended : ((inventoryClient livedLibrary).program call).call db with
        ⟨outcome, reached⟩
      rw [ended] at isOk announced restCommit
      cases outcome with
      | error failure => cases isOk
      | ok result =>
          have changed : reached ≠ db := by
            rintro rfl
            exact of_decide_eq_true announced rfl
          have next := (reachable.alone (commitsLast_inventoryClient call)
            ended).resolve_left changed
          have later := inductionHypothesis restCommit next
          have goesOn : (inventoryClient livedLibrary).run db
                (alone (call :: rest)) =
              (inventoryClient livedLibrary).run reached (alone rest) := by
            rw [← Client.after_of_call ended]
            rfl
          rw [goesOn, commitsFrom, ended, List.append_assoc]
          exact later

/-- The commits of the two lives. -/
def living : List (Commit (inventoryClient livedLibrary)) :=
  commitsFrom start livedCalls

theorem system_lived :
    System.Reachable InventoryDb.IsEmpty
      (System.idle lived living :
        System (inventoryClient livedLibrary) deviceLocking) := by
  have allCommit : allCommit start livedCalls = true := by decide +kernel
  have ran := system_commitsFrom allCommit (.initial isEmpty_start)
  rwa [List.append_nil] at ran

end Sample

/-- Two devices, of which one is renamed, retired and archived. -/
theorem versionsSound_lived : VersionsSound Sample.living Sample.lived :=
  versionsSound_of_reachable Sample.system_lived

end NetworkManager.InventoryStore
