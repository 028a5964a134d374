import NetworkManager.InventoryStore.Rediscovery

/-!
# Values entered by hand

A device that is entered by hand keeps the values of its text columns whatever
discovery observes of it, as long as nobody patches it: they are declared.  Only
a name that has been taken from the identifiers is not, and gives way to an
observation that has another.
-/

namespace NetworkManager.InventoryStore

open NetworkManager.Foundation
open NetworkManager.Domain.Inventory
open NetworkManager.Security
open NetworkManager.Transaction

/-- The values of a row are still there. -/
def KeepsValues (row : DeviceView) (db : InventoryDb) : Prop :=
  ∃ device, db.devices.lookup row.id = some device ∧
    (∀ field value, row.text field = some value →
      device.text field = some value) ∧
    ∀ serial, row.serialNumber = some serial →
      device.serialNumber = some serial

/-- The name of an input is that of an identifier, and the observation has
another. -/
def Renames (input : NewDevice) (observation : DeviceObservation) : Prop :=
  input.hostname = none ∧ ∃ name other,
    cleanOptional (firstIdentifierValue input.identifiers .hostname) =
      some name ∧
    cleanOptional observation.hostname = some other ∧ other ≠ name

/-- The call observes no other name of the device. -/
def LeavesName (input : NewDevice) (deviceId : Uuid) (db : InventoryDb) :
    InventoryCall → Prop
  | .reconcileObservation context _ observation =>
      db.matching context.scope observation = {deviceId} →
        ¬Renames input observation
  | _ => True

/-- The call patches the device. -/
def InventoryCall.Patches (deviceId : Uuid) : InventoryCall → Prop
  | .updateMetadata _ _ patched _ _ => patched = deviceId
  | _ => False

/-- All that an input gives is declared about a device, and only what it
gives of the name. -/
structure Protects (input : NewDevice) (deviceId : Uuid) (db : InventoryDb) :
    Prop where
  sound : IdentifiersSound db
  declared : ∀ field value, input.text field = some value →
    db.hasDeclaredFact deviceId (.text field) = true
  unnamed : input.hostname = none →
    db.hasDeclaredFact deviceId (.text .hostname) = false

section Changes

variable {db reached : InventoryDb} {call : InventoryCall} {change : Change}
  {deviceId : Uuid}

/-- What is declared about a device that is there changes only by a patch. -/
theorem Makes.hasDeclaredFact_eq (makes : Makes db call change)
    (present : (db.devices.lookup deviceId).isSome)
    (unpatched : ¬call.Patches deviceId) (field : Field) :
    (change.apply db).hasDeclaredFact deviceId field =
      db.hasDeclaredFact deviceId field := by
  by_cases same : deviceId = change.device.id
  · subst same
    rcases Option.isSome_iff_exists.mp present with ⟨device, isDevice⟩
    cases makes with
    | manual absent => exact nomatch absent.symm.trans isDevice
    | metadata found allowed => exact absurd rfl unpatched
    | lifecycle found different allowed => rfl
    | observed only found inService =>
        exact congrFun (congrFun hasDeclaredFact_observedFacts _) field
    | discovered noMatch absent => exact nomatch absent.symm.trans isDevice
  · have unchanged : SameDevice db (change.apply db) deviceId :=
      sameDevice_apply makes.concerns same
    rw [Bool.eq_iff_iff, hasDeclaredFact_eq_true_iff,
      hasDeclaredFact_eq_true_iff]
    refine exists_congr fun source => ?_
    rw [unchanged.facts ⟨deviceId, field, .declared, source⟩ rfl]

/-- A text column after an observation. -/
theorem text_observedChange {context : MutationContext}
    {generated : Generated} {observation : DeviceObservation}
    {declared : Field → Bool} {current : DeviceView} (field : TextField) :
    (observedChange context generated observation declared
      current).device.text field =
      if (cleanOptional (observation.text field)).isSome &&
          !declared (.text field) then
        cleanOptional (observation.text field)
      else current.text field :=
  DeviceView.text_withTexts current (fun field =>
    if (cleanOptional (observation.text field)).isSome &&
        !declared (.text field) then
      cleanOptional (observation.text field)
    else current.text field) field

end Changes

section Columns

variable {context : MutationContext} {generated : Generated}
  {input : NewDevice} {approvalRequired : Bool}

/-- A value of a new row is given as such, or it is the name of an
identifier. -/
theorem given_or_named {field : TextField} {value : String}
    (isValue : (manualRow context generated input approvalRequired).text
      field = some value) :
    (∃ given, input.text field = some given) ∨
      field = .hostname ∧ input.hostname = none ∧
        cleanOptional (firstIdentifierValue input.identifiers .hostname) =
          some value := by
  cases given : input.text field with
  | some text => exact Or.inl ⟨text, rfl⟩
  | none =>
      right
      cases field with
      | hostname =>
          have noName : input.hostname = none := given
          refine ⟨rfl, noName, ?_⟩
          rw [← isValue]
          simp [manualRow, DeviceView.text, noName]
      | _ =>
          have column := congrArg cleanOptional given
          cases isValue.symm.trans column

/-- The values of a new row are declared with the row. -/
theorem protects_of_created {db reached : InventoryDb}
    (govern : DeclaredGovern db)
    (absent : db.devices.lookup generated.deviceId = none)
    (mutation : Mutation db
      (.createManual context generated input approvalRequired)
      (manualChange context generated input approvalRequired) reached) :
    Protects input generated.deviceId reached := by
  have sound := mutation.sound
  rcases mutation.recorded with ⟨auditRow, outboxRow, _, _, _, rfl⟩
  have declared_iff : ∀ field,
      InventoryDb.hasDeclaredFact (((manualChange context generated input
          approvalRequired).apply db).recorded auditRow outboxRow)
        generated.deviceId field = true ↔
      ∃ value, (field, value) ∈ declaredValues input := by
    intro field
    rw [hasDeclaredFact_eq_true_iff]
    constructor
    · rintro ⟨source, found⟩
      rcases (Table.isSome_lookup_upsertAll key_setFact _ _ _).mp found with
        written | old
      · rcases List.mem_map.mp written with ⟨row, listed, sameKey⟩
        rcases List.mem_map.mp listed with ⟨⟨given, value⟩, member, rfl⟩
        have isField : given = field := congrArg FactKey.fieldName sameKey
        exact ⟨value, isField ▸ member⟩
      · rcases Option.isSome_iff_exists.mp old with ⟨fact, isFact⟩
        exact (govern.no_facts absent isFact).elim
    · rintro ⟨value, member⟩
      refine ⟨"manual", ?_⟩
      apply (Table.isSome_lookup_upsertAll key_setFact _ _ _).mpr
      exact Or.inl (List.mem_map.mpr
        ⟨_, List.mem_map_of_mem member, rfl⟩)
  refine ⟨sound, ?_, ?_⟩
  · intro field value given
    refine (declared_iff _).mpr ⟨.string value, ?_⟩
    apply List.mem_cons_of_mem
    apply List.mem_append_left
    exact List.mem_filterMap.mpr ⟨field, field.mem_all, by simp [given]⟩
  · intro noName
    rw [Bool.eq_false_iff]
    intro declared
    rcases (declared_iff _).mp declared with ⟨value, member⟩
    rcases List.mem_cons.mp member with isType | later
    · cases isType
    · rcases List.mem_append.mp later with inTexts | inCapabilities
      · rcases List.mem_filterMap.mp inTexts with ⟨field, _, given⟩
        rcases Option.map_eq_some_iff.mp given with ⟨text, isText, same⟩
        cases same
        exact nomatch noName.symm.trans isText
      · by_cases noCapabilities : input.capabilities.isEmpty = true
        · rw [if_pos noCapabilities] at inCapabilities
          cases inCapabilities
        · rw [if_neg noCapabilities] at inCapabilities
          cases List.mem_singleton.mp inCapabilities

/-- An observation leaves the values of a device that has been entered by hand
exactly if it does not rename it. -/
theorem texts_observed_iff {db : InventoryDb} {current : DeviceView}
    (protects : Protects input generated.deviceId db)
    (texts : ∀ field value,
      (manualRow context generated input approvalRequired).text field =
        some value → current.text field = some value)
    (otherContext : MutationContext) (otherGenerated : Generated)
    (observation : DeviceObservation) :
    (∀ field value,
      (manualRow context generated input approvalRequired).text field =
        some value →
      (observedChange otherContext otherGenerated observation
        (db.hasDeclaredFact generated.deviceId) current).device.text field =
          some value) ↔
      ¬Renames input observation := by
  constructor
  · rintro kept ⟨noName, name, other, isName, isOther, different⟩
    have named : (manualRow context generated input approvalRequired).text
        .hostname = some name := by
      simpa [manualRow, DeviceView.text, noName] using isName
    have isKept := kept .hostname name named
    have observes : cleanOptional (observation.text .hostname) = some other :=
      isOther
    rw [text_observedChange, protects.unnamed noName, observes] at isKept
    exact different (Option.some.inj isKept)
  · intro stays field value isValue
    rw [text_observedChange]
    rcases given_or_named isValue with ⟨text, given⟩ | ⟨rfl, noName, isName⟩
    · simpa [protects.declared field text given] using texts field value isValue
    · rw [protects.unnamed noName]
      cases observes : cleanOptional (observation.text .hostname) with
      | none => simpa using texts .hostname value isValue
      | some other =>
          by_cases same : other = value
          · simp [same]
          · exact absurd ⟨noName, value, other, isName, observes, same⟩ stays

/-- A device that is entered by hand keeps its values exactly if a call leaves
its name. -/
theorem Makes.keepsValues_iff {db : InventoryDb} {call : InventoryCall}
    {change : Change} (makes : Makes db call change)
    (protects : Protects input generated.deviceId db)
    (keeps : KeepsValues (manualRow context generated input approvalRequired)
      db)
    (unpatched : ¬call.Patches generated.deviceId) :
    KeepsValues (manualRow context generated input approvalRequired)
        (change.apply db) ↔
      LeavesName input generated.deviceId db call := by
  rcases keeps with ⟨device, isDevice, texts, serial⟩
  have found : db.devices.lookup generated.deviceId = some device := isDevice
  by_cases same : change.device.id = generated.deviceId
  · have written : (change.apply db).devices.lookup generated.deviceId =
        some change.device := (lookup_devices_apply _ _ _).trans (if_pos same)
    cases makes with
    | manual absent =>
        rw [← same] at found
        exact nomatch absent.symm.trans found
    | metadata stored allowed => exact absurd same unpatched
    | @lifecycle otherContext otherGenerated next reason current stored =>
        have isCurrent : device = current := by
          have isStored := (deviceIn_eq_some_iff.mp stored).1
          have sameId : current.id = generated.deviceId := same
          rw [sameId] at isStored
          exact Option.some.inj (found.symm.trans isStored)
        subst isCurrent
        refine iff_of_true ⟨_, written, fun field value isValue => ?_, serial⟩
          trivial
        rw [← texts field value isValue]
        cases field <;> rfl
    | @observed otherContext otherGenerated observation current only stored =>
        have sameId : current.id = generated.deviceId := same
        have isCurrent : device = current := by
          have isStored := (deviceIn_eq_some_iff.mp stored).1
          rw [sameId] at isStored
          exact Option.some.inj (found.symm.trans isStored)
        subst isCurrent
        have leaves := texts_observed_iff protects texts otherContext
          otherGenerated observation
        rw [← sameId] at leaves
        constructor
        · rintro ⟨after, isAfter, textsAfter, _⟩ _
          cases Option.some.inj (written.symm.trans isAfter)
          exact leaves.mp textsAfter
        · intro leavesName
          rw [sameId] at only
          exact ⟨_, written, leaves.mpr (leavesName only), serial⟩
    | discovered noMatch absent =>
        rw [← same] at found
        exact nomatch absent.symm.trans found
  · have unchanged : (change.apply db).devices.lookup generated.deviceId =
        some device :=
      ((lookup_devices_apply _ _ _).trans (if_neg same)).trans found
    apply iff_of_true ⟨device, unchanged, texts, serial⟩
    cases makes with
    | observed only stored =>
        intro matched
        exact absurd (Finset.singleton_injective (only.symm.trans matched))
          same
    | discovered noMatch absent =>
        intro matched
        rw [noMatch] at matched
        exact absurd matched.symm (Finset.singleton_ne_empty _)
    | _ => trivial

/-- A call that returns a result and is no patch of the device keeps what is
declared about it, and its values exactly if it leaves its name. -/
theorem keepsValues_of_call_iff {library : InventoryLibrary}
    {db reached : InventoryDb} {call : InventoryCall} {result : call.Result}
    (protects : Protects input generated.deviceId db)
    (keeps : KeepsValues (manualRow context generated input approvalRequired)
      db)
    (unpatched : ¬call.Patches generated.deviceId)
    (ended : ((inventoryClient library).program call).call db =
      (.ok result, reached)) :
    Protects input generated.deviceId reached ∧
      (KeepsValues (manualRow context generated input approvalRequired)
          reached ↔
        LeavesName input generated.deviceId db call) := by
  have ofMutation : ∀ {change : Change}, Mutation db call change reached →
      Protects input generated.deviceId reached ∧
        (KeepsValues (manualRow context generated input approvalRequired)
            reached ↔
          LeavesName input generated.deviceId db call) := by
    intro change mutation
    have sound := mutation.sound
    have keepsIff := mutation.makes.keepsValues_iff protects keeps unpatched
    have sameDeclared : ∀ field,
        (change.apply db).hasDeclaredFact generated.deviceId field =
          db.hasDeclaredFact generated.deviceId field := by
      rcases keeps with ⟨device, found, _⟩
      exact mutation.makes.hasDeclaredFact_eq
        (Option.isSome_of_eq_some found) unpatched
    rcases mutation.recorded with ⟨auditRow, outboxRow, _, _, _, rfl⟩
    refine ⟨⟨sound, fun field value given => ?_, fun noName => ?_⟩, keepsIff⟩
    · exact (sameDeclared _).trans (protects.declared field value given)
    · exact (sameDeclared _).trans (protects.unnamed noName)
  cases call with
  | reconcileObservation otherContext otherGenerated observation =>
      rcases valid_of_reconcileObservation ended with ⟨contextValid, valid⟩
      cases reconciles protects.sound contextValid valid ended with
      | updated mutation => exact ofMutation mutation
      | created mutation => exact ofMutation mutation
  | _ =>
      rcases mutation_of_call protects.sound _ ended with
        rfl | ⟨change, mutation⟩
      · exact ⟨protects, iff_of_true keeps trivial⟩
      · exact ofMutation mutation

end Columns

/-! ## Runs -/

/-- A device that has been entered by hand keeps its values throughout a run in
which nobody patches it, exactly if no call of the run that returns a result
observes another name of it. -/
theorem manual_values_survive_iff {library : InventoryLibrary}
    {db : InventoryDb} {context : MutationContext} {generated : Generated}
    {input : NewDevice} {approvalRequired : Bool}
    {plan : List (Option SqlError)}
    {attempts : List (inventoryClient library).Attempt}
    (reachable : (inventoryClient library).Reachable InventoryDb.IsEmpty db)
    (created : (inventoryClient library).Succeeds db
      (InventoryCall.createManual context generated input approvalRequired,
        plan))
    (unpatched : ∀ attempt ∈ attempts,
      ¬attempt.1.Patches generated.deviceId) :
    let entered := (inventoryClient library).after db
      (InventoryCall.createManual context generated input approvalRequired,
        plan)
    (∀ earlier, earlier <+: attempts →
      KeepsValues (manualRow context generated input approvalRequired)
        ((inventoryClient library).run entered earlier)) ↔
    ∀ earlier attempt, earlier ++ [attempt] <+: attempts →
      (inventoryClient library).Succeeds
        ((inventoryClient library).run entered earlier) attempt →
      LeavesName input generated.deviceId
        ((inventoryClient library).run entered earlier) attempt.1 := by
  intro entered
  rcases created.call with ⟨result, ended⟩
  rcases mutation_createManual (identifiersSound_of_reachable reachable) ended
    with ⟨change, _, mutation⟩
  have step : ∀ state, ∀ attempt ∈ attempts,
      Protects input generated.deviceId state →
      KeepsValues (manualRow context generated input approvalRequired) state →
      Protects input generated.deviceId
          ((inventoryClient library).after state attempt) ∧
        (KeepsValues (manualRow context generated input approvalRequired)
            ((inventoryClient library).after state attempt) ↔
          ((inventoryClient library).Succeeds state attempt →
            LeavesName input generated.deviceId state attempt.1)) := by
    intro state attempt member protects keeps
    by_cases succeeds : (inventoryClient library).Succeeds state attempt
    · rcases succeeds.call with ⟨other, returned⟩
      rcases keepsValues_of_call_iff protects keeps
        (unpatched attempt member) returned with ⟨stillProtects, keepsIff⟩
      refine ⟨stillProtects, keepsIff.trans ?_⟩
      exact ⟨fun leaves _ => leaves, fun leaves => leaves succeeds⟩
    · rw [Client.after_eq_of_not_succeeds (commitsLast_inventoryClient _)
        succeeds]
      exact ⟨protects,
        iff_of_true keeps fun returned => absurd returned succeeds⟩
  have govern := declaredGovern_of_reachable reachable
  have isEntered : Protects input generated.deviceId entered ∧
      KeepsValues (manualRow context generated input approvalRequired)
        entered := by
    have makes := mutation.makes
    cases makes with
    | manual absent =>
        exact ⟨protects_of_created govern absent mutation, _,
          (deviceIn_eq_some_iff.mp mutation.found).1, fun _ _ same => same,
          fun _ same => same⟩
  exact @Client.throughout_iff inventorySql InventoryError
    (inventoryClient library) (Protects input generated.deviceId)
    (KeepsValues (manualRow context generated input approvalRequired)) _
    attempts step entered isEntered.1 isEntered.2

namespace Sample

/-- A device that is entered with its name as an identifier. -/
def labelled : NewDevice := { edge with identifiers := strong.identifiers }

def labelledRow : DeviceView := manualRow context first labelled false

def labelledDraft : AuditEventDraft :=
  mutationDraft context first "inventory.device.create" labelledRow none
    (some (labelledRow.toValue formatTime))

/-- A later observation of the device, by another name. -/
def relabelling : DeviceObservation := { strong with hostname := some "SW-2" }

def relabelled : DeviceView :=
  (observedChange context second relabelling
    (fun field => field = .deviceType ∨ field = .text .displayName)
    labelledRow).device

def relabelledDraft : AuditEventDraft :=
  mutationDraft context second "inventory.device.reconcile" relabelled
    (some (labelledRow.toValue formatTime))
    (some (relabelled.toValue formatTime))

def labelledDigest : FixedBytes 32 :=
  ⟨[93, 255, 191, 227, 125, 80, 71, 62, 219, 157, 48, 196, 36, 130, 237, 215,
    155, 114, 43, 223, 22, 152, 41, 5, 208, 31, 184, 24, 78, 66, 203,
    1], by decide⟩

def relabelledDigest : FixedBytes 32 :=
  ⟨[89, 151, 142, 167, 168, 117, 150, 3, 169, 163, 115, 94, 57, 117, 131, 126,
    37, 124, 151, 41, 210, 147, 66, 35, 231, 247, 163, 148, 186, 248, 246,
    202], by decide⟩

def labelledLibrary : InventoryLibrary :=
  libraryOf [⟨[], labelledDraft, labelledDigest⟩,
    ⟨labelledDigest.bytes, relabelledDraft, relabelledDigest⟩]

def labels : (inventoryClient labelledLibrary).Attempt :=
  (InventoryCall.createManual context first labelled false, [])

def relabels : (inventoryClient labelledLibrary).Attempt :=
  (InventoryCall.reconcileObservation context second relabelling, [])

/-- The state after the device has been entered. -/
def labelledOnce : InventoryDb :=
  (inventoryClient labelledLibrary).after start labels

private theorem labelled_ended :
    ((createManual labelledLibrary context first labelled false).call
      start).1 = .ok labelledRow ∧
    (((inventoryClient labelledLibrary).run labelledOnce
      [relabels]).devices.lookup labelledRow.id).map DeviceView.hostname =
        some (some "SW-2") := by
  decide +kernel

private theorem labels_succeeds :
    (inventoryClient labelledLibrary).Succeeds start labels :=
  ⟨labelledRow, labelled_ended.1⟩

private theorem reachable_labelled :
    (inventoryClient labelledLibrary).Reachable InventoryDb.IsEmpty start :=
  .initial isEmpty_start

end Sample

/-- A name that is entered as an identifier is lost. -/
theorem not_manual_values_survive :
    ¬∀ (library : InventoryLibrary) (db : InventoryDb)
      (context : MutationContext) (generated : Generated) (input : NewDevice)
      (approvalRequired : Bool) (plan : List (Option SqlError))
      (attempts : List (inventoryClient library).Attempt),
      (inventoryClient library).Reachable InventoryDb.IsEmpty db →
      (inventoryClient library).Succeeds db
        (InventoryCall.createManual context generated input approvalRequired,
          plan) →
      (∀ attempt ∈ attempts, ∃ otherContext otherGenerated observation,
        attempt.1 = .reconcileObservation otherContext otherGenerated
          observation) →
      KeepsValues (manualRow context generated input approvalRequired)
        ((inventoryClient library).run ((inventoryClient library).after db
          (InventoryCall.createManual context generated input
            approvalRequired, plan)) attempts) := by
  intro survive
  have observes : ∀ attempt ∈ [Sample.relabels],
      ∃ otherContext otherGenerated observation, attempt.1 =
        .reconcileObservation otherContext otherGenerated observation := by
    intro attempt member
    rw [List.mem_singleton.mp member]
    exact ⟨_, _, _, rfl⟩
  rcases survive _ _ _ _ _ _ _ [Sample.relabels] Sample.reachable_labelled
    Sample.labels_succeeds observes with ⟨device, found, texts, _⟩
  have isName := texts .hostname "SW-1" (by decide)
  have renamed := Sample.labelled_ended.2
  have isOther : some device.hostname = some (some "SW-2") := by
    rw [← renamed]
    exact (congrArg (Option.map DeviceView.hostname) found).symm
  have different : some "SW-1" = some "SW-2" :=
    isName.symm.trans (Option.some.inj isOther)
  exact absurd different (by decide)

/-- An observation that gives no name leaves it. -/
theorem manual_values_survive_labelled :
    KeepsValues Sample.labelledRow ((inventoryClient Sample.labelledLibrary).run
      Sample.labelledOnce [(InventoryCall.reconcileObservation Sample.context
        Sample.second Sample.strong, [])]) := by
  refine (manual_values_survive_iff Sample.reachable_labelled
    Sample.labels_succeeds ?_).mpr ?_ _ (List.prefix_refl _)
  · intro attempt member patches
    rw [List.mem_singleton.mp member] at patches
    exact patches
  · intro earlier attempt isPrefix _
    have isAttempt : attempt = (InventoryCall.reconcileObservation
        Sample.context Sample.second Sample.strong, []) := by
      have member : attempt ∈ [(InventoryCall.reconcileObservation
          Sample.context Sample.second Sample.strong, [])] :=
        isPrefix.subset (List.mem_append_right _ (List.mem_singleton_self _))
      exact List.mem_singleton.mp member
    rw [isAttempt]
    rintro _ ⟨_, name, other, _, isOther, _⟩
    exact nomatch isOther

end NetworkManager.InventoryStore
