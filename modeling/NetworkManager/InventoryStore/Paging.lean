import NetworkManager.Foundation.Pages
import NetworkManager.InventoryStore.Chronicles
import NetworkManager.InventoryStore.IsolatedLists
import NetworkManager.InventoryStore.Versions

/-!
# Reading a list page by page

The list of a scope starts with the device that was changed last, so a change
moves a device to the front and the others, if at all, towards the end.  A
reader who asks for the pages one after the other misses no device that stays
as it is, whatever happens to the others in between.
-/

namespace NetworkManager.InventoryStore

open NetworkManager.Foundation
open NetworkManager.Transaction

/-- The devices that a query selects. -/
def selectedDevices (lower : String → String) (scope : Scope)
    (query : InventoryQuery) (db : InventoryDb) (network : NetworkDb) :
    List DeviceView :=
  db.devices.rows.filter fun device =>
    decide (device.scope = scope) &&
      (query.lifecycle.all fun lifecycle =>
        decide (device.lifecycle = lifecycle)) &&
      (query.deviceType.all fun deviceType =>
        decide (device.deviceType = deviceType)) &&
      query.searched.all fun search =>
        matchesSearch lower db network search device

/-- The query for a page of all devices. -/
def everyDevice (limit offset : Int) : InventoryQuery :=
  ⟨none, none, none, limit, offset⟩

def InventoryDb.devicesOf (db : InventoryDb) (scope : Scope) :
    List DeviceView :=
  db.devices.rows.filter fun device => decide (device.scope = scope)

/-- The pages that a reader gets who raises the offset by the limit each
time. -/
def readPages (lower : String → String) (scope : Scope)
    (query : InventoryQuery) (network : NetworkDb) :
    Int → List InventoryDb → List (List DeviceView)
  | _, [] => []
  | offset, db :: rest =>
      execSelectDevices lower scope { query with offset } db network ::
        readPages lower scope query network (offset + query.limit) rest

section Pages

variable {lower : String → String} {scope : Scope} {query : InventoryQuery}
  {network : NetworkDb} {db : InventoryDb} {offset : Int}

private theorem execSelectDevices_eq :
    execSelectDevices lower scope query db network =
      page changedAfter (selectedDevices lower scope query db network)
        query.offset.toNat query.limit.toNat := rfl

private theorem readPages_eq
    (notNegative : 0 ≤ offset) (positive : 1 ≤ query.limit)
    (states : List InventoryDb) :
    readPages lower scope query network offset states =
      pages changedAfter query.limit.toNat offset.toNat
        (states.map fun db => selectedDevices lower scope query db network) := by
  induction states generalizing offset with
  | nil => rfl
  | cons db rest inductionHypothesis =>
      have next : (offset + query.limit).toNat =
          offset.toNat + query.limit.toNat := by omega
      rw [readPages, inductionHypothesis (by omega), next]
      rfl

private theorem selectedDevices_everyDevice (limit : Int) :
    selectedDevices lower scope (everyDevice limit offset) db network =
      db.devicesOf scope := by
  simp [selectedDevices, everyDevice, InventoryDb.devicesOf,
    InventoryQuery.searched]

private theorem separates_devices {rows : List DeviceView}
    (sublist : rows.Sublist db.devices.rows) : Separates changedAfter rows where
  nodup := (List.Nodup.of_map DeviceView.id db.devices.keysNodup).sublist sublist
  eq_of_both _ leftMember _ rightMember before after :=
    Table.eq_of_mem_of_key_eq (sublist.subset leftMember)
      (sublist.subset rightMember) (id_eq_of_changedAfter before after)

/-- While nothing changes, the pages together are the selected devices, each
once and in order.  A query whose search has U+0000 in it is answered here like
any other, though the database refuses it. -/
theorem pages_partition (db : InventoryDb) (network : NetworkDb)
    (valid : query.validate = .ok ()) (count : Nat)
    (enough : (selectedDevices lower scope query db network).length ≤
      count * query.limit.toNat) :
    (readPages lower scope query network 0
        (List.replicate count db)).flatten =
      (selectedDevices lower scope query db network).insertionSort
        changedAfter ∧
    (readPages lower scope query network 0
        (List.replicate count db)).flatten.Perm
      (selectedDevices lower scope query db network) ∧
    (readPages lower scope query network 0
        (List.replicate count db)).flatten.Nodup := by
  have positive : 1 ≤ query.limit := by
    by_contra notPositive
    have refused : query.validate =
        .error (.invalidInput "pagination is invalid") := by
      rw [InventoryQuery.validate, if_pos]
      simp [notPositive]
    rw [refused] at valid
    cases valid
  have whole : (readPages lower scope query network 0
      (List.replicate count db)).flatten =
        (selectedDevices lower scope query db network).insertionSort
          changedAfter := by
    rw [readPages_eq (le_refl 0) positive, List.map_replicate, Int.toNat_zero,
      flatten_pages_replicate, List.drop_zero]
    apply List.take_of_length_le
    rw [List.length_insertionSort]
    exact enough
  have perm := List.perm_insertionSort changedAfter
    (selectedDevices lower scope query db network)
  rw [whole]
  exact ⟨rfl, perm, perm.nodup_iff.mpr
    (separates_devices List.filter_sublist).nodup⟩

end Pages

/-! ## Changes between two pages -/

/-- No device has left its scope, or been changed before its last change. -/
def Forward (before after : InventoryDb) : Prop :=
  ∀ deviceId row, before.devices.lookup deviceId = some row →
    ∃ later, after.devices.lookup deviceId = some later ∧
      later.scope = row.scope ∧ row.lastChangedAt ≤ later.lastChangedAt

private theorem Forward.refl (db : InventoryDb) : Forward db db :=
  fun _ row found => ⟨row, found, rfl, le_refl _⟩

private theorem Forward.trans {first middle last : InventoryDb}
    (early : Forward first middle) (late : Forward middle last) :
    Forward first last := by
  intro deviceId row found
  rcases early deviceId row found with ⟨middleRow, middleFound, scope, atLeast⟩
  rcases late deviceId middleRow middleFound with
    ⟨lastRow, lastFound, sameScope, stillAtLeast⟩
  exact ⟨lastRow, lastFound, sameScope.trans scope,
    atLeast.trans stillAtLeast⟩

/-- A device that stays as it is does not come closer to the front. -/
theorem Forward.rank_le {before after : InventoryDb} {device : DeviceView}
    (forward : Forward before after) (scope : Scope) :
    rank changedAfter (before.devicesOf scope) device ≤
      rank changedAfter (after.devicesOf scope) device := by
  have nodup : ((before.devicesOf scope).map DeviceView.id).Nodup :=
    before.devices.keysNodup.sublist (List.filter_sublist.map DeviceView.id)
  apply rank_le_rank DeviceView.id nodup
  intro other member notBefore
  rcases List.mem_filter.mp member with ⟨stored, inScope⟩
  rcases forward other.id other (Table.lookup_of_mem stored) with
    ⟨later, found, sameScope, atLeast⟩
  have sameId : later.id = other.id := Table.key_of_lookup found
  refine ⟨later, ?_, sameId, ?_⟩
  · apply List.mem_filter.mpr
    rw [sameScope]
    exact ⟨Table.mem_of_lookup found, inScope⟩
  · intro precedes
    apply notBefore
    unfold changedAfter at precedes ⊢
    rw [sameId] at precedes
    rcases precedes with isEarlier | ⟨same, inOrder⟩
    · exact Or.inl (lt_of_le_of_lt atLeast isEarlier)
    · rcases lt_or_eq_of_le (same ▸ atLeast) with isEarlier | isSame
      · exact Or.inl isEarlier
      · exact Or.inr ⟨isSame, inOrder⟩

/-- Rows are changed only together with their versions, and go forward. -/
structure Advances (before after : InventoryDb) : Prop where
  succeeds : Succeeds before after
  forward : Forward before after

private theorem Advances.refl (db : InventoryDb) : Advances db db :=
  ⟨.refl db, .refl db⟩

private theorem Advances.trans {first middle last : InventoryDb}
    (early : Advances first middle) (late : Advances middle last) :
    Advances first last :=
  ⟨early.succeeds.trans late.succeeds, early.forward.trans late.forward⟩

/-- A device that is at the end as it was at first was so in between. -/
theorem Advances.unchanged {first middle last : InventoryDb} {deviceId : Uuid}
    {device : DeviceView} (early : Advances first middle)
    (late : Advances middle last)
    (atFirst : first.devices.lookup deviceId = some device)
    (atLast : last.devices.lookup deviceId = some device) :
    middle.devices.lookup deviceId = some device := by
  rcases early.succeeds deviceId device atFirst with
    ⟨middleRow, found, atLeast, same⟩
  rcases late.succeeds deviceId middleRow found with
    ⟨lastRow, foundLast, atMost, _⟩
  obtain rfl := Option.some.inj (atLast.symm.trans foundLast)
  have sameVersion : middleRow.version = device.version := by omega
  rw [found, same sameVersion]

section Changes

variable {db reached : InventoryDb} {call : InventoryCall} {change : Change}

private theorem Makes.changedAt (makes : Makes db call change) :
    change.device.lastChangedAt = call.generated.now := by
  cases makes with
  | manual => rfl
  | metadata => rfl
  | lifecycle => rfl
  | observed => rfl
  | discovered => rfl

private theorem Mutation.lookup_devices
    (mutation : Mutation db call change reached)
    (deviceId : Uuid) :
    reached.devices.lookup deviceId =
      if change.device.id = deviceId then some change.device
      else db.devices.lookup deviceId := by
  rcases mutation.recorded with ⟨auditRow, outboxRow, _, _, _, rfl⟩
  exact lookup_devices_apply change db deviceId

/-- A mutation whose clock is not behind the rows goes forward. -/
theorem Mutation.advances (mutation : Mutation db call change reached)
    (clock : ∀ row ∈ db.devices.rows,
      row.lastChangedAt ≤ call.generated.now) : Advances db reached := by
  have version := mutation.makes.version_eq
  constructor
  · intro deviceId row found
    have after := mutation.lookup_devices deviceId
    by_cases same : change.device.id = deviceId
    · rw [if_pos same] at after
      have current : db.versionOf change.device.id = row.version := by
        rw [InventoryDb.versionOf, same, found]
        rfl
      exact ⟨change.device, after, by omega, by omega⟩
    · rw [if_neg same] at after
      exact ⟨row, after.trans found, le_refl _, fun _ => rfl⟩
  · intro deviceId row found
    have after := mutation.lookup_devices deviceId
    by_cases same : change.device.id = deviceId
    · rw [if_pos same] at after
      have follows := mutation.makes.follows (same ▸ found)
      refine ⟨change.device, after, follows.scope, ?_⟩
      rw [mutation.makes.changedAt]
      exact clock row (Table.mem_of_lookup found)
    · rw [if_neg same] at after
      exact ⟨row, after.trans found, rfl, le_refl _⟩

end Changes

section Walks

variable {library : InventoryLibrary}

/-- No call reads a clock that is behind the calls before it or behind the
rows. -/
structure ClockForward (db : InventoryDb)
    (attempts : List (inventoryClient library).Attempt) : Prop where
  rows : ∀ row ∈ db.devices.rows, ∀ attempt ∈ attempts,
    row.lastChangedAt ≤ (InventoryCall.generated attempt.1).now
  calls : attempts.Pairwise fun earlier later =>
    (InventoryCall.generated earlier.1).now ≤
      (InventoryCall.generated later.1).now

/-- What one attempt does. -/
theorem ClockForward.step {db : InventoryDb}
    {attempt : (inventoryClient library).Attempt}
    {rest : List (inventoryClient library).Attempt}
    (clock : ClockForward db (attempt :: rest)) (sound : IdentifiersSound db) :
    IdentifiersSound ((inventoryClient library).after db attempt) ∧
      Advances db ((inventoryClient library).after db attempt) ∧
      ClockForward ((inventoryClient library).after db attempt) rest := by
  have calls := List.pairwise_cons.mp clock.calls
  have unchanged : ClockForward db rest :=
    ⟨fun row member later isLater =>
      clock.rows row member later (List.mem_cons_of_mem attempt isLater),
      calls.2⟩
  by_cases succeeds : (inventoryClient library).Succeeds db attempt
  · rcases succeeds.call with ⟨result, ended⟩
    rcases mutation_of_call sound attempt.1 ended with same | ⟨change, mutation⟩
    · rw [same]
      exact ⟨sound, .refl db, unchanged⟩
    · refine ⟨mutation.sound, mutation.advances fun row member =>
        clock.rows row member attempt (List.mem_cons_self ..), ?_, calls.2⟩
      intro row member later isLater
      have found := Table.lookup_of_mem member
      rw [mutation.lookup_devices] at found
      by_cases same : change.device.id = row.id
      · rw [if_pos same] at found
        rw [← Option.some.inj found, mutation.makes.changedAt]
        exact calls.1 later isLater
      · rw [if_neg same] at found
        exact unchanged.rows row (Table.mem_of_lookup found) later isLater
  · rw [Client.after_eq_of_not_succeeds (commitsLast_inventoryClient attempt.1)
      succeeds]
    exact ⟨sound, .refl db, unchanged⟩

/-- What some attempts do, if others come behind them. -/
theorem ClockForward.run {db : InventoryDb}
    {attempts rest : List (inventoryClient library).Attempt}
    (clock : ClockForward db (attempts ++ rest)) (sound : IdentifiersSound db) :
    IdentifiersSound ((inventoryClient library).run db attempts) ∧
      Advances db ((inventoryClient library).run db attempts) ∧
      ClockForward ((inventoryClient library).run db attempts) rest := by
  induction attempts generalizing db with
  | nil => exact ⟨sound, .refl db, clock⟩
  | cons attempt others inductionHypothesis =>
      rcases clock.step sound with ⟨soundAfter, advances, clockAfter⟩
      rcases inductionHypothesis clockAfter soundAfter with
        ⟨soundLast, advancesLast, clockLast⟩
      exact ⟨soundLast, advances.trans advancesLast, clockLast⟩

/-- The states in which a reader finds the pages, where some attempts are made
before each page but the first. -/
def visited (library : InventoryLibrary) (db : InventoryDb) :
    List (List (inventoryClient library).Attempt) → List InventoryDb
  | [] => [db]
  | batch :: rest =>
      db :: visited library ((inventoryClient library).run db batch) rest

/-- The states are visited in order, and the run ends behind them. -/
theorem ClockForward.visited {db : InventoryDb}
    {batches : List (List (inventoryClient library).Attempt)}
    (clock : ClockForward db batches.flatten) (sound : IdentifiersSound db) :
    (visited library db batches).Pairwise Advances ∧
      ∀ state ∈ visited library db batches, Advances db state ∧
        Advances state
          ((inventoryClient library).run db batches.flatten) := by
  induction batches generalizing db with
  | nil =>
      refine ⟨List.pairwise_singleton _ _, ?_⟩
      intro state member
      obtain rfl := List.mem_singleton.mp member
      exact ⟨.refl state, .refl state⟩
  | cons batch rest inductionHypothesis =>
      rw [List.flatten_cons] at clock
      rcases clock.run sound with ⟨soundAfter, advances, clockAfter⟩
      rcases inductionHypothesis clockAfter soundAfter with ⟨inOrder, bounded⟩
      have split : (inventoryClient library).run db (batch :: rest).flatten =
          (inventoryClient library).run
            ((inventoryClient library).run db batch) rest.flatten := by
        rw [List.flatten_cons]
        exact List.foldl_append
      have later : ∀ state ∈ InventoryStore.visited library
          ((inventoryClient library).run db batch) rest, Advances db state :=
        fun state member => advances.trans (bounded state member).1
      have toEnd : Advances ((inventoryClient library).run db batch)
          ((inventoryClient library).run
            ((inventoryClient library).run db batch) rest.flatten) := by
        have first : (inventoryClient library).run db batch ∈
            InventoryStore.visited library
              ((inventoryClient library).run db batch) rest := by
          cases rest with
          | nil => exact List.mem_singleton_self _
          | cons next others => exact List.mem_cons_self ..
        exact (bounded _ first).2
      refine ⟨List.pairwise_cons.mpr ⟨later, inOrder⟩, ?_⟩
      intro state member
      rw [split]
      rcases List.mem_cons.mp member with rfl | isLater
      · exact ⟨.refl state, advances.trans toEnd⟩
      · exact ⟨later state isLater, (bounded state isLater).2⟩

end Walks

/-- Whoever reads the devices of a scope page by page, until a page is not full,
has seen every device that is at the end as it was at first, whatever has been
stored and changed in between, and whatever has failed. -/
theorem pages_miss_no_unchanged_device {library : InventoryLibrary}
    {db : InventoryDb}
    (reachable : (inventoryClient library).Reachable InventoryDb.IsEmpty db)
    {batches : List (List (inventoryClient library).Attempt)}
    (clock : ClockForward db batches.flatten) {limit : Int}
    (positive : 1 ≤ limit) {lower : String → String} {scope : Scope}
    {network : NetworkDb}
    (short : EndsShort limit.toNat (readPages lower scope (everyDevice limit 0)
      network 0 (visited library db batches)))
    {device : DeviceView} (inScope : device.scope = scope)
    (atFirst : db.devices.lookup device.id = some device)
    (atLast : ((inventoryClient library).run db
      batches.flatten).devices.lookup device.id = some device) :
    ∃ listed ∈ readPages lower scope (everyDevice limit 0) network 0
      (visited library db batches), device ∈ listed := by
  rcases clock.visited (identifiersSound_of_reachable reachable) with
    ⟨inOrder, bounded⟩
  have tables : (visited library db batches).map (fun state =>
      selectedDevices lower scope (everyDevice limit 0) state network) =
        (visited library db batches).map fun state => state.devicesOf scope :=
    List.map_congr_left fun _ _ => selectedDevices_everyDevice limit
  rw [readPages_eq (le_refl 0) positive, tables] at short ⊢
  apply exists_mem_pages ?_ ?_ ?_ ?_ short
  · intro rows member
    rcases List.mem_map.mp member with ⟨state, _, rfl⟩
    exact separates_devices List.filter_sublist
  · intro rows member
    rcases List.mem_map.mp member with ⟨state, isVisited, rfl⟩
    rcases bounded state isVisited with ⟨early, late⟩
    have found := early.unchanged late atFirst atLast
    exact List.mem_filter.mpr
      ⟨Table.mem_of_lookup found, decide_eq_true inScope⟩
  · rw [List.isChain_map]
    exact inOrder.isChain.imp fun before after advances =>
      advances.forward.rank_le scope
  · exact fun _ _ => Nat.zero_le _

namespace Sample

/-- The call that adds the second device, between the first two pages. -/
def again : (inventoryClient library).Attempt :=
  (InventoryCall.reconcileObservation context second weak, [])

private theorem reachable_observedOnce :
    (inventoryClient library).Reachable InventoryDb.IsEmpty observedOnce := by
  have ended : ((inventoryClient library).program
      (InventoryCall.reconcileObservation context first weak)).call start =
        (.ok (.created (discovered first weak)), observedOnce) := weak_ended.1
  have begun : (inventoryClient library).Reachable InventoryDb.IsEmpty start :=
    .initial isEmpty_start
  exact begun.of_call ended

private theorem devices_observedOnce :
    observedOnce.devices.rows = [discovered first weak] := by
  rw [devices_of_created isEmpty_start.sound weak_ended.1]
  rfl

private theorem devices_observedTwice :
    observedTwice.devices.rows =
      [discovered first weak, discovered second weak] := by
  have sound := identifiersSound_of_reachable reachable_observedOnce
  have absent : observedOnce.devices.lookup (discovered second weak).id =
      none := by
    rw [Table.lookup, devices_observedOnce]
    rfl
  rw [devices_of_created sound weak_ended.2,
    Table.rows_put_of_lookup_none absent, devices_observedOnce]
  rfl

private theorem length_devicesOf_observedTwice :
    (observedTwice.devicesOf context.scope).length ≤ 2 := by
  have bounded := List.length_filter_le
    (fun device : DeviceView => decide (device.scope = context.scope))
    observedTwice.devices.rows
  rw [devices_observedTwice] at bounded
  rw [InventoryDb.devicesOf, devices_observedTwice]
  exact bounded

/-- The pages, of one device each, with the second device added behind the
first page. -/
def batches : List (List (inventoryClient library).Attempt) := [[again], []]

private theorem after_again :
    (inventoryClient library).after observedOnce again = observedTwice := by
  have ended : ((inventoryClient library).program
      (InventoryCall.reconcileObservation context second weak)).call
        observedOnce =
          (.ok (.created (discovered second weak)), observedTwice) :=
    weak_ended.2
  exact Client.after_of_call ended

private theorem visited_batches :
    visited library observedOnce batches =
      [observedOnce, observedTwice, observedTwice] := by
  rw [batches, visited, visited, visited, Client.run_cons, Client.run_nil,
    Client.run_nil, after_again]

private theorem run_batches :
    (inventoryClient library).run observedOnce batches.flatten =
      observedTwice := by
  rw [batches, List.flatten_cons, List.flatten_cons, List.flatten_nil,
    List.append_nil, List.append_nil, Client.run_cons, Client.run_nil,
    after_again]

end Sample

/-- Two pages of one device each are the whole list. -/
theorem pages_partition_observed :
    (readPages id Sample.context.scope (everyDevice 1 0) ⟨[], []⟩ 0
        (List.replicate 2 Sample.observedTwice)).flatten =
      (selectedDevices id Sample.context.scope (everyDevice 1 0)
        Sample.observedTwice ⟨[], []⟩).insertionSort changedAfter ∧
    (readPages id Sample.context.scope (everyDevice 1 0) ⟨[], []⟩ 0
        (List.replicate 2 Sample.observedTwice)).flatten.Perm
      (selectedDevices id Sample.context.scope (everyDevice 1 0)
        Sample.observedTwice ⟨[], []⟩) ∧
    (readPages id Sample.context.scope (everyDevice 1 0) ⟨[], []⟩ 0
        (List.replicate 2 Sample.observedTwice)).flatten.Nodup := by
  have enough : (selectedDevices id Sample.context.scope (everyDevice 1 0)
      Sample.observedTwice ⟨[], []⟩).length ≤
        2 * (everyDevice 1 0).limit.toNat := by
    rw [selectedDevices_everyDevice]
    exact Sample.length_devicesOf_observedTwice
  exact pages_partition Sample.observedTwice ⟨[], []⟩ rfl 2 enough

/-- The first device is listed, and so is the page behind the second. -/
theorem pages_miss_no_unchanged_device_observed :
    ∃ listed ∈ readPages id Sample.context.scope (everyDevice 1 0) ⟨[], []⟩ 0
        (visited Sample.library Sample.observedOnce Sample.batches),
      Sample.discovered Sample.first Sample.weak ∈ listed := by
  have atFirst : Sample.observedOnce.devices.lookup
      (Sample.discovered Sample.first Sample.weak).id =
        some (Sample.discovered Sample.first Sample.weak) := by
    apply Table.lookup_of_mem
    rw [Sample.devices_observedOnce]
    exact List.mem_singleton_self _
  have atLast : ((inventoryClient Sample.library).run Sample.observedOnce
      Sample.batches.flatten).devices.lookup
        (Sample.discovered Sample.first Sample.weak).id =
          some (Sample.discovered Sample.first Sample.weak) := by
    rw [Sample.run_batches]
    apply Table.lookup_of_mem
    rw [Sample.devices_observedTwice]
    exact List.mem_cons_self ..
  refine pages_miss_no_unchanged_device Sample.reachable_observedOnce ?_
    (le_refl 1) ?_ rfl atFirst atLast
  · constructor
    · intro row member attempt isAttempt
      rw [Sample.devices_observedOnce, List.mem_singleton] at member
      rw [List.mem_singleton.mp isAttempt, member]
      exact le_refl (0 : Int)
    · exact List.pairwise_singleton _ _
  · have few := Sample.length_devicesOf_observedTwice
    have isShort : (execSelectDevices id Sample.context.scope (everyDevice 1 2)
        Sample.observedTwice ⟨[], []⟩).length < 1 := by
      rw [execSelectDevices_eq, length_page, selectedDevices_everyDevice]
      have isLimit : (everyDevice 1 2).limit.toNat = 1 := rfl
      have isOffset : (everyDevice 1 2).offset.toNat = 2 := rfl
      omega
    rw [Sample.visited_batches]
    exact ⟨_, rfl, isShort⟩

end NetworkManager.InventoryStore
