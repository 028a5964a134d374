import NetworkManager.Backend.InventoryApi
import NetworkManager.InventoryStore.Declared
import NetworkManager.InventoryStore.IsolatedLists
import NetworkManager.InventoryStore.IsolatedRuns

/-!
# Isolation of tenants

Each operation of the inventory, called for a scope, has the same outcome in
two states with the same rows of the scope and leaves them so, and it spares the
rows of every other scope.  A mutation may fail in one of the states alone where
they differ in what it meets outside the scope: a generated id that a device of
another tenant has makes a creation fail.
-/

namespace NetworkManager.Backend.InventoryApi

open NetworkManager.Foundation
open NetworkManager.Domain.Inventory
open NetworkManager.InventoryStore
open NetworkManager.Security
open NetworkManager.Transaction

/-- The operations of `InventoryStore`. -/
inductive StoreCall where
  | get (scope : Scope) (deviceId : Uuid)
  | list (scope : Scope) (query : InventoryQuery)
  | createManual (context : MutationContext) (input : NewDevice)
      (approvalRequired : Bool)
  | updateMetadata (context : MutationContext) (deviceId : Uuid)
      (expectedVersion : Int) (patch : MetadataPatch)
  | transitionLifecycle (context : MutationContext) (deviceId : Uuid)
      (expectedVersion : Int) (next : DeviceLifecycle) (reason : Option String)
  | reconcileObservation (context : MutationContext)
      (observation : DeviceObservation)

namespace StoreCall

/-- The scope that the call is for. -/
def scope : StoreCall → Scope
  | get given _ => given
  | list given _ => given
  | createManual context _ _ => context.scope
  | updateMetadata context _ _ _ => context.scope
  | transitionLifecycle context _ _ _ _ => context.scope
  | reconcileObservation context _ => context.scope

/-- The call may write. -/
def mutates : StoreCall → Bool
  | get _ _ => false
  | list _ _ => false
  | _ => true

abbrev Result : StoreCall → Type
  | get .. => Option DeviceView
  | list .. => List DeviceView
  | createManual .. => DeviceView
  | updateMetadata .. => DeviceView
  | transitionLifecycle .. => DeviceView
  | reconcileObservation .. => ReconciliationResult

section Programs

variable (lower : String → String) (library : InventoryLibrary)
  (generated : Generated)

/-- A program of the inventory, in the whole database. -/
def inStore {α : Type} (program : InventoryStore.Store α) :
    Program (apiSql lower) InventoryError α :=
  (inventoryEmbedding lower).lift id program

def program :
    (call : StoreCall) → Program (apiSql lower) InventoryError call.Result
  | get scope deviceId => inStore lower (InventoryStore.get scope deviceId)
  | list scope query => InventoryApi.list lower scope query
  | createManual context input approvalRequired =>
      inStore lower (InventoryStore.createManual library context generated
        input approvalRequired)
  | updateMetadata context deviceId expectedVersion patch =>
      inStore lower (InventoryStore.updateMetadata library context generated
        deviceId expectedVersion patch)
  | transitionLifecycle context deviceId expectedVersion next reason =>
      inStore lower (InventoryStore.transitionLifecycle library context
        generated deviceId expectedVersion next reason)
  | reconcileObservation context observation =>
      inStore lower (InventoryStore.reconcileObservation library context
        generated observation)

end Programs

end StoreCall

/-! ## Isolation -/

/-- Two states agree on the rows of a scope. -/
structure AgreeOn (scope : Scope) (left right : ApiDb) : Prop where
  rows : left.inventory.rowsOf scope = right.inventory.rowsOf scope
  network : NetworkAlike scope left.network right.network

/-- The calls have the same result, the states agree on the scope, and the
rows of the other scopes are as they were. -/
structure KeepsApart {α : Type} (scope : Scope) (left right : ApiDb)
    (leftAfter rightAfter : Except InventoryError α × ApiDb) : Prop where
  result : leftAfter.1 = rightAfter.1
  agree : AgreeOn scope leftAfter.2 rightAfter.2
  leftSpares : Spares scope left.inventory leftAfter.2.inventory
  rightSpares : Spares scope right.inventory rightAfter.2.inventory

/-- One of the calls fails for what it meets outside the scope, where the
states differ. -/
def CollidesOutside {α : Type} (scope : Scope) (generated : Generated)
    (left right : ApiDb)
    (leftAfter rightAfter : Except InventoryError α × ApiDb) : Prop :=
  ¬AlikeOutside scope generated left.inventory right.inventory ∧
    ∃ failure, Collides failure ∧
      (leftAfter.1 = .error failure ∨ rightAfter.1 = .error failure)

section Isolation

variable {lower : String → String} {library : InventoryLibrary}
  {generated : Generated} {scope : Scope} {left right : ApiDb} {α : Type}

/-- A call that reads has read the same, and has written nothing. -/
def ReadsAlike (program : Program (apiSql lower) InventoryError α)
    (left right : ApiDb) : Prop :=
  program.RunsAlike
    (fun leftAfter rightAfter => leftAfter = left ∧ rightAfter = right)
    (fun _ => False) (fun _ _ _ => True) left right

private theorem readsAlike_get
    (deviceId : Uuid) (agree : AgreeOn scope left right) :
    ReadsAlike ((StoreCall.get scope deviceId).program lower library generated)
      left right := by
  have sameDevice : right.inventory.deviceIn scope deviceId =
      left.inventory.deviceIn scope deviceId :=
    (congrFun (congrArg ScopeRows.devices agree.rows) deviceId).symm
  have rightRead : inventorySql.exec (.selectDevice scope deviceId false)
      right.inventory = .ok (left.inventory.deviceIn scope deviceId, []) := by
    rw [← sameDevice]
  have inner : (InventoryStore.get scope deviceId).RunsAlike
      (fun _ _ => False) (fun _ => False) (fun _ _ _ => True) left.inventory
      right.inventory :=
    .of_read rfl rightRead trivial
  exact (inner.lift (fun _ isFalse => isFalse)
    fun _ _ isFalse => isFalse.elim).mono fun _ _ _ _ => trivial

private theorem readsAlike_list (query : InventoryQuery)
    (agree : AgreeOn scope left right) :
    ReadsAlike ((StoreCall.list scope query).program lower library generated)
      left right := by
  apply Program.RunsAlike.ofExcept_bind
  intro _ _
  have rightRead : (apiSql lower).exec (.selectDevices scope query) right =
      .ok (execSelectDevices lower scope query left.inventory left.network,
        []) := by
    rw [execSelectDevices_congr query agree.rows agree.network]
  exact .of_read rfl rightRead trivial

private theorem ReadsAlike.keepsApart
    {program : Program (apiSql lower) InventoryError α}
    (alike : ReadsAlike program left right) (plan : List (Option SqlError))
    (agree : AgreeOn scope left right) :
    KeepsApart scope left right (program.callFaulty plan left)
      (program.callFaulty plan right) := by
  rcases alike.callFaulty plan ⟨rfl, rfl⟩ with
    ⟨sameResult, isLeft, isRight⟩ | ⟨_, isFalse, _⟩
  · refine ⟨sameResult, ?_, ?_, ?_⟩
    · rw [isLeft, isRight]
      exact agree
    · rw [isLeft]
      exact fun _ _ => rfl
    · rw [isRight]
      exact fun _ _ => rfl
  · exact isFalse.elim

/-- A program of the inventory that keeps any two runs isolated. -/
def Isolates (scope : Scope) (generated : Generated)
    (program : InventoryStore.Store α) : Prop :=
  ∀ left right, TwoRuns.Isolated ⟨generated, left, right⟩ scope left right →
    TwoRuns.Keeps ⟨generated, left, right⟩ scope program
      (fun _ => TwoRuns.Isolated ⟨generated, left, right⟩ scope) left right

private theorem Isolates.keepsApart {program : InventoryStore.Store α}
    (isolates : Isolates scope generated program)
    (plan : List (Option SqlError)) (leftConstrained : Constrained left.inventory)
    (rightConstrained : Constrained right.inventory)
    (agree : AgreeOn scope left right) :
    KeepsApart scope left right
        ((StoreCall.inStore lower program).callFaulty plan left)
        ((StoreCall.inStore lower program).callFaulty plan right) ∨
      CollidesOutside scope generated left right
        ((StoreCall.inStore lower program).callFaulty plan left)
        ((StoreCall.inStore lower program).callFaulty plan right) := by
  let runs : TwoRuns := ⟨generated, left.inventory, right.inventory⟩
  let Whole (leftAfter rightAfter : ApiDb) : Prop :=
    runs.Isolated scope leftAfter.inventory rightAfter.inventory ∧
      leftAfter.network = left.network ∧ rightAfter.network = right.network
  have isolated : runs.Isolated scope left.inventory right.inventory :=
    ⟨agree.rows, fun began => began, leftConstrained, rightConstrained,
      fun _ _ => rfl, fun _ _ => rfl⟩
  have lifted := @Program.RunsAlike.lift _ (apiSql lower) _ _ _ _ _ _ _
    (inventoryEmbedding lower) id Whole (runs.Excused scope) left right
    (isolates _ _ isolated) (fun _ isExcused => isExcused)
    fun _ _ isRelated => ⟨isRelated, rfl, rfl⟩
  rcases lifted.callFaulty plan ⟨isolated, rfl, rfl⟩ with
    ⟨sameResult, after, sameLeft, sameRight⟩ | ⟨failure, isExcused, ended⟩
  · left
    refine ⟨sameResult, ⟨after.rows, ?_⟩, after.leftSpares, after.rightSpares⟩
    exact sameLeft.symm ▸ sameRight.symm ▸ agree.network
  · right
    exact ⟨isExcused.1, failure, isExcused.2, ended⟩

private theorem AgreeOn.refl
    (scope : Scope) (db : ApiDb) : AgreeOn scope db db :=
  ⟨rfl, fun _ _ => Iff.rfl, fun _ _ _ _ _ => Iff.rfl⟩

/-- A run compared with itself does not collide. -/
theorem Isolates.spares {program : InventoryStore.Store α}
    (isolates : Isolates scope generated program)
    (plan : List (Option SqlError)) (constrained : Constrained left.inventory) :
    Spares scope left.inventory
      ((StoreCall.inStore lower program).callFaulty plan left).2.inventory := by
  rcases isolates.keepsApart plan constrained constrained
    (AgreeOn.refl scope left) with apart | collides
  · exact apart.leftSpares
  · exact absurd ⟨rfl, ⟨rfl, rfl, fun _ => rfl⟩, rfl⟩ collides.1

/-- Every operation of the inventory but the reads. -/
theorem isolates_of_mutates (call : StoreCall) (mutates : call.mutates = true) :
    ∃ program : InventoryStore.Store call.Result,
      call.program lower library generated =
          StoreCall.inStore lower program ∧
        Isolates call.scope generated program := by
  cases call with
  | get scope deviceId => cases mutates
  | list scope query => cases mutates
  | createManual context input approvalRequired =>
      exact ⟨_, rfl, fun _ _ isolated => isolated.createManual⟩
  | updateMetadata context deviceId expectedVersion patch =>
      exact ⟨_, rfl, fun _ _ isolated => isolated.updateMetadata⟩
  | transitionLifecycle context deviceId expectedVersion next reason =>
      exact ⟨_, rfl, fun _ _ isolated => isolated.transitionLifecycle⟩
  | reconcileObservation context observation =>
      exact ⟨_, rfl, fun _ _ isolated => isolated.reconcileObservation⟩

private theorem keepsApart_of_reads
    (call : StoreCall) (reads : call.mutates = false)
    (plan : List (Option SqlError)) (agree : AgreeOn call.scope left right) :
    KeepsApart call.scope left right
      ((call.program lower library generated).callFaulty plan left)
      ((call.program lower library generated).callFaulty plan right) := by
  cases call with
  | get scope deviceId =>
      exact (readsAlike_get deviceId agree).keepsApart plan agree
  | list scope query =>
      exact (readsAlike_list query agree).keepsApart plan agree
  | createManual context input approvalRequired => cases reads
  | updateMetadata context deviceId expectedVersion patch => cases reads
  | transitionLifecycle context deviceId expectedVersion next reason =>
      cases reads
  | reconcileObservation context observation => cases reads

end Isolation

/-- Tenant isolation: a call for a scope has the same result in all states that
agree on the scope and leaves them so, except that a mutation may collide with
what it meets outside the scope.  It spares the rows of every other scope. -/
theorem tenants_isolated (lower : String → String) (library : InventoryLibrary)
    (generated : Generated) (call : StoreCall) (plan : List (Option SqlError))
    {left right : ApiDb} (leftConstrained : Constrained left.inventory)
    (rightConstrained : Constrained right.inventory)
    (agree : AgreeOn call.scope left right) :
    (KeepsApart call.scope left right
        ((call.program lower library generated).callFaulty plan left)
        ((call.program lower library generated).callFaulty plan right) ∨
      call.mutates = true ∧ CollidesOutside call.scope generated left right
        ((call.program lower library generated).callFaulty plan left)
        ((call.program lower library generated).callFaulty plan right)) ∧
    Spares call.scope left.inventory
      ((call.program lower library generated).callFaulty plan
        left).2.inventory ∧
    Spares call.scope right.inventory
      ((call.program lower library generated).callFaulty plan
        right).2.inventory := by
  cases mutates : call.mutates with
  | false =>
      have apart := @keepsApart_of_reads lower library generated left right
        call mutates plan agree
      exact ⟨Or.inl apart, apart.leftSpares, apart.rightSpares⟩
  | true =>
      rcases @isolates_of_mutates lower library generated call mutates with
        ⟨program, isProgram, isolates⟩
      rw [isProgram]
      refine ⟨?_, isolates.spares plan leftConstrained,
        isolates.spares plan rightConstrained⟩
      rcases isolates.keepsApart plan leftConstrained rightConstrained agree
        with apart | collides
      · exact Or.inl apart
      · exact Or.inr ⟨rfl, collides⟩

namespace Sample

open InventoryStore.Sample (context edge edgeLibrary edgeRow first start)

def withDevices (devices : Table Uuid DeviceView DeviceView.id) : ApiDb where
  authorization := ⟨.empty _, .empty _,
    ⟨.empty _, .empty _, .empty _, [], .empty _⟩⟩
  inventory := { start with devices }
  network := ⟨[], []⟩

/-- A device of another tenant. -/
def foreign (deviceId : Uuid) : DeviceView :=
  { edgeRow with
    id := deviceId
    organizationId := ⟨90⟩
    siteId := ⟨91⟩ }

def alone : ApiDb := withDevices (.empty _)

def shared (deviceId : Uuid) : ApiDb :=
  withDevices ((Table.empty _).put (foreign deviceId))

private theorem constrained_withDevices
    (devices : Table Uuid DeviceView DeviceView.id) :
    Constrained (withDevices devices).inventory where
  identifierDevice _ member := nomatch member
  factDevice _ member := nomatch member
  strongUnique _ member := nomatch member

private theorem agreeOn_shared (deviceId : Uuid) :
    AgreeOn context.scope alone (shared deviceId) := by
  refine ⟨ScopeRows.mk.injEq .. |>.mpr ⟨?_, rfl, rfl, rfl⟩,
    fun _ _ => Iff.rfl, fun _ member => nomatch member⟩
  funext wanted
  have isForeign : (shared deviceId).inventory.deviceIn context.scope wanted =
      none := by
    rw [Option.eq_none_iff_forall_ne_some]
    intro device found
    rcases deviceIn_eq_some_iff.mp found with ⟨stored, inScope⟩
    have isRow := Table.mem_of_lookup stored
    have isDevice : device = foreign deviceId := List.mem_singleton.mp isRow
    rw [isDevice] at inScope
    have sameSite : (⟨91⟩ : Uuid) = context.siteId :=
      congrArg Scope.siteId inScope
    exact absurd sameSite (by decide)
  exact isForeign.symm

/-- The call that enters a device by hand. -/
abbrev enters : StoreCall := .createManual context edge false

private theorem alone_ended :
    ((enters.program id edgeLibrary first).callFaulty [] alone).1 =
      .ok edgeRow := by
  decide +kernel

private theorem shared_ended :
    ((enters.program id edgeLibrary first).callFaulty []
      (shared first.deviceId)).1 =
        .error (.database (.uniqueViolation "devices_pkey")) := by
  decide

end Sample

/-- A device of another tenant that has the generated id is noticed. -/
theorem not_tenants_isolated :
    ¬∀ (lower : String → String) (library : InventoryLibrary)
      (generated : Generated) (call : StoreCall)
      (plan : List (Option SqlError)) (left right : ApiDb),
      Constrained left.inventory → Constrained right.inventory →
      AgreeOn call.scope left right →
      KeepsApart call.scope left right
        ((call.program lower library generated).callFaulty plan left)
        ((call.program lower library generated).callFaulty plan right) := by
  intro isolated
  have apart := isolated id InventoryStore.Sample.edgeLibrary
    InventoryStore.Sample.first Sample.enters [] Sample.alone
    (Sample.shared InventoryStore.Sample.first.deviceId)
    (Sample.constrained_withDevices _) (Sample.constrained_withDevices _)
    (Sample.agreeOn_shared _)
  have same := apart.result
  rw [Sample.alone_ended, Sample.shared_ended] at same
  cases same

/-- A device of another tenant with an id of its own makes no difference. -/
theorem tenants_isolated_shared :
    KeepsApart InventoryStore.Sample.context.scope Sample.alone
      (Sample.shared ⟨92⟩)
      ((Sample.enters.program id InventoryStore.Sample.edgeLibrary
        InventoryStore.Sample.first).callFaulty [] Sample.alone)
      ((Sample.enters.program id InventoryStore.Sample.edgeLibrary
        InventoryStore.Sample.first).callFaulty [] (Sample.shared ⟨92⟩)) := by
  rcases (tenants_isolated id InventoryStore.Sample.edgeLibrary
    InventoryStore.Sample.first Sample.enters []
    (Sample.constrained_withDevices _) (Sample.constrained_withDevices _)
    (Sample.agreeOn_shared ⟨92⟩)).1 with apart | ⟨_, collides⟩
  · exact apart
  · exact absurd ⟨by decide, ⟨rfl, rfl, fun _ => rfl⟩, rfl⟩ collides.1

end NetworkManager.Backend.InventoryApi
