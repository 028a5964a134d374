import NetworkManager.InventoryStore.Reconciliation

/-!
# Declared facts govern the canonical columns

A field of a device for which an operator has declared a value has that value,
cleaned, in its column.  The columns are written in four places, by the
insertion, the patch, the observation and the change of life cycle; each keeps
this.
-/

namespace NetworkManager.InventoryStore

open NetworkManager.Foundation
open NetworkManager.Domain.Inventory
open NetworkManager.Security
open NetworkManager.Transaction

/-- The column of a field, as the value that a fact would have. -/
def DeviceView.value (device : DeviceView) : Field → Value
  | .deviceType => .string device.deviceType.asStr
  | .text field => optionalValue (device.text field)
  | .capabilities => textsValue device.capabilities

/-- What a declared value becomes in its column: a text is trimmed, and a blank
one is dropped. -/
def cleaned : Field → Value → Value
  | .text _, .string value => optionalValue (cleanOptional (some value))
  | _, value => value

private theorem optionalValue_injective : Function.Injective optionalValue := by
  intro left right same
  cases left with
  | none =>
      cases right with
      | none => rfl
      | some right => cases same
  | some left =>
      cases right with
      | none => cases same
      | some right =>
          cases same
          rfl

theorem cleanOptional_cleanOptional (value : Option String) :
    cleanOptional (cleanOptional value) = cleanOptional value := by
  cases value with
  | none => rfl
  | some value =>
      by_cases blank : trim value = ""
      · simp [cleanOptional, blank]
      · simp [cleanOptional, blank]

/-- A column that holds a cleaned value is clean. -/
theorem cleanOptional_of_cleaned {field : TextField} {column : Option String}
    {value : Value}
    (governed : optionalValue column = cleaned (.text field) value) :
    cleanOptional column = column := by
  cases value with
  | string value =>
      have isClean : column = cleanOptional (some value) :=
        optionalValue_injective governed
      rw [isClean, cleanOptional_cleanOptional]
  | null =>
      have isNone : column = none := optionalValue_injective governed
      rw [isNone]
      rfl
  | bool value => cases column <;> cases governed
  | number value => cases column <;> cases governed
  | array values => cases column <;> cases governed
  | object members => cases column <;> cases governed

/-- All fields, in the order in which facts about them are written. -/
def Field.all : List Field :=
  .deviceType :: (TextField.all.map .text ++ [.capabilities])

private theorem Field.nodup_all : Field.all.Nodup := by decide

private theorem fields_texts_sublist {α : Type} (texts : TextField → Option α)
    (toValue : α → Value) (fields : List TextField) :
    ((fields.filterMap fun field => (texts field).map fun value =>
        (Field.text field, toValue value)).map Prod.fst).Sublist
      (fields.map Field.text) := by
  induction fields with
  | nil => exact List.Sublist.refl _
  | cons field rest inductionHypothesis =>
      cases given : texts field with
      | none =>
          rw [List.filterMap_cons_none (by rw [given]; rfl), List.map_cons]
          exact inductionHypothesis.cons _
      | some value =>
          rw [List.filterMap_cons_some (by rw [given]; rfl), List.map_cons,
            List.map_cons]
          exact inductionHypothesis.cons_cons _

/-- A new device declares each field at most once. -/
theorem nodup_declaredValues (input : NewDevice) :
    ((declaredValues input).map Prod.fst).Nodup := by
  apply List.Nodup.sublist ?_ Field.nodup_all
  rw [declaredValues, Field.all, List.map_cons, List.map_append]
  apply List.Sublist.cons_cons
  apply (fields_texts_sublist _ _ _).append
  by_cases noCapabilities : input.capabilities.isEmpty = true
  · rw [if_pos noCapabilities]
    exact List.nil_sublist _
  · rw [if_neg noCapabilities]
    exact List.Sublist.refl _

/-- A patch declares each field at most once. -/
theorem nodup_patchedValues (patch : MetadataPatch) :
    ((patchedValues patch).map Prod.fst).Nodup := by
  apply List.Nodup.sublist ?_ Field.nodup_all
  rw [patchedValues, Field.all, List.map_append, List.map_append,
    ← List.singleton_append]
  apply List.Sublist.append
  · cases patch.deviceType with
    | none => exact List.nil_sublist _
    | some deviceType => exact List.Sublist.refl _
  · apply (fields_texts_sublist _ _ _).append
    cases patch.capabilities with
    | none => exact List.nil_sublist _
    | some capabilities => exact List.Sublist.refl _

section Columns

variable {context : MutationContext} {generated : Generated} {field : Field}
  {value : Value}

/-- A new device has in its columns what it declares. -/
theorem value_manualRow {input : NewDevice} (approvalRequired : Bool)
    (member : (field, value) ∈ declaredValues input) :
    (manualRow context generated input approvalRequired).value field =
      cleaned field value := by
  rcases List.mem_cons.mp member with same | later
  · cases same
    rfl
  · rcases List.mem_append.mp later with inTexts | inCapabilities
    · rcases List.mem_filterMap.mp inTexts with ⟨textField, _, given⟩
      rcases Option.map_eq_some_iff.mp given with ⟨text, isText, same⟩
      cases same
      have column : (manualRow context generated input
          approvalRequired).text textField = cleanOptional (some text) := by
        cases textField with
        | hostname =>
            have isHostname : input.hostname = some text := isText
            simp [manualRow, DeviceView.text, isHostname]
        | _ => exact congrArg cleanOptional isText
      exact congrArg optionalValue column
    · by_cases noCapabilities : input.capabilities.isEmpty = true
      · rw [if_pos noCapabilities] at inCapabilities
        cases inCapabilities
      · rw [if_neg noCapabilities] at inCapabilities
        cases List.mem_singleton.mp inCapabilities
        rfl

/-- A patched device has in its columns what the patch declares. -/
theorem value_patched {patch : MetadataPatch} (current : DeviceView)
    (member : (field, value) ∈ patchedValues patch) :
    (metadataChange context generated patch current).device.value field =
      cleaned field value := by
  rcases List.mem_append.mp member with inType | later
  · rcases Option.map_eq_some_iff.mp (Option.mem_toList.mp inType) with
      ⟨deviceType, isType, same⟩
    cases same
    have column : (metadataChange context generated patch
        current).device.deviceType = deviceType := by
      simp [metadataChange, setMetadata, isType]
    exact congrArg (fun given => Value.string (DeviceType.asStr given)) column
  · rcases List.mem_append.mp later with inTexts | inCapabilities
    · rcases List.mem_filterMap.mp inTexts with ⟨textField, _, given⟩
      rcases Option.map_eq_some_iff.mp given with ⟨text, isText, same⟩
      cases same
      have column : (metadataChange context generated patch
          current).device.text textField = cleanOptional text := by
        have patched := DeviceView.text_withTexts current
          (patchedTexts patch current) textField
        rw [patchedTexts, isText] at patched
        exact patched
      have isValue : (metadataChange context generated patch
          current).device.value (.text textField) =
            optionalValue (cleanOptional text) := congrArg optionalValue column
      rw [isValue]
      cases text with
      | none => rfl
      | some text => rfl
    · rcases Option.map_eq_some_iff.mp
        (Option.mem_toList.mp inCapabilities) with
        ⟨capabilities, isCapabilities, same⟩
      cases same
      have column : (metadataChange context generated patch
          current).device.capabilities = capabilities := by
        simp [metadataChange, setMetadata, isCapabilities]
      exact congrArg textsValue column

end Columns

/-! ## The invariant -/

/-- The key of the fact that an operator declares about a field. -/
def declaredKey (deviceId : Uuid) (field : Field) : FactKey :=
  ⟨deviceId, field, .declared, "manual"⟩

/-- Declared facts are entered by hand, about devices that are there, and the
columns of these devices have the declared values. -/
structure DeclaredGovern (db : InventoryDb) : Prop where
  manual : ∀ fact ∈ db.facts.rows, fact.key.provenance = .declared →
    fact.key.source = "manual"
  device : ∀ fact ∈ db.facts.rows,
    (db.devices.lookup fact.key.deviceId).isSome
  governs : ∀ deviceId device field fact,
    db.devices.lookup deviceId = some device →
    db.facts.lookup (declaredKey deviceId field) = some fact →
    device.value field = cleaned field fact.value

private theorem mem_upsertAll_facts {facts : Table FactKey FactRow FactRow.key}
    {rows : List FactRow} {fact : FactRow}
    (member : fact ∈ (facts.upsertAll setFact rows).rows) :
    fact.key ∈ rows.map FactRow.key ∨
      ∃ stored ∈ facts.rows, stored.key = fact.key := by
  have present : ((facts.upsertAll setFact rows).lookup fact.key).isSome := by
    rw [Table.lookup_of_mem member]
    rfl
  rcases (Table.isSome_lookup_upsertAll key_setFact rows fact.key facts).mp
    present with written | stored
  · exact Or.inl written
  · rcases Option.isSome_iff_exists.mp stored with ⟨old, found⟩
    exact Or.inr ⟨old, Table.mem_of_lookup found, Table.key_of_lookup found⟩

/-- The declared fact about a field after declared values are written. -/
theorem lookup_declaredFacts {facts : Table FactKey FactRow FactRow.key}
    {scope : Scope} {deviceId : Uuid} {values : List (Field × Value)}
    (nodup : (values.map Prod.fst).Nodup) {field : Field} {fact : FactRow}
    (found : (facts.upsertAll setFact (declaredFacts scope deviceId
      values)).lookup (declaredKey deviceId field) = some fact) :
    (field, fact.value) ∈ values ∨
      ((∀ value, (field, value) ∉ values) ∧
        facts.lookup (declaredKey deviceId field) = some fact) := by
  by_cases given : ∃ value, (field, value) ∈ values
  · left
    rcases given with ⟨value, member⟩
    have rowMember : declaredFact scope deviceId field value ∈
        declaredFacts scope deviceId values :=
      List.mem_map_of_mem member
    have keysNodup : ((declaredFacts scope deviceId values).map
        FactRow.key).Nodup := by
      have keys : (declaredFacts scope deviceId values).map FactRow.key =
          (values.map Prod.fst).map (declaredKey deviceId) := by
        rw [declaredFacts, List.map_map, List.map_map]
        rfl
      rw [keys]
      apply nodup.map
      intro left right same
      exact congrArg FactKey.fieldName same
    have merged := Table.lookup_upsertAll_of_mem key_setFact keysNodup
      rowMember facts
    have isFact := Option.some.inj (merged.symm.trans found)
    have isValue : fact.value = value := by
      rw [← isFact]
      cases facts.lookup (declaredFact scope deviceId field value).key with
      | none => rfl
      | some stored => rfl
    rw [isValue]
    exact member
  · right
    have absent : ∀ value, (field, value) ∉ values :=
      fun value member => given ⟨value, member⟩
    refine ⟨absent, ?_⟩
    rw [← found]
    symm
    apply Table.lookup_upsertAll_of_notMem key_setFact
    intro row member same
    rcases List.mem_map.mp member with ⟨pair, pairMember, rfl⟩
    have sameField : pair.1 = field := congrArg FactKey.fieldName same
    apply absent pair.2
    rw [← sameField]
    exact pairMember

/-- A patch leaves a column alone that it says nothing of, if the column is
clean. -/
theorem value_unpatched {context : MutationContext} {generated : Generated}
    {patch : MetadataPatch} {current : DeviceView} {field : Field}
    {value : Value} (absent : ∀ value, (field, value) ∉ patchedValues patch)
    (governed : current.value field = cleaned field value) :
    (metadataChange context generated patch current).device.value field =
      current.value field := by
  cases field with
  | deviceType =>
      have noType : patch.deviceType = none := by
        cases given : patch.deviceType with
        | none => rfl
        | some deviceType =>
            exact absurd (List.mem_append_left _ (Option.mem_toList.mpr
              (Option.map_eq_some_iff.mpr ⟨deviceType, given, rfl⟩)))
              (absent (.string deviceType.asStr))
      simp [DeviceView.value, metadataChange, setMetadata, noType,
        DeviceView.withTexts]
  | text textField =>
      have noText : patch.text textField = none := by
        cases given : patch.text textField with
        | none => rfl
        | some text =>
            exact absurd (List.mem_append_right _ (List.mem_append_left _
              (List.mem_filterMap.mpr ⟨textField, textField.mem_all,
                Option.map_eq_some_iff.mpr ⟨text, given, rfl⟩⟩)))
              (absent (optionalValue text))
      have column : (metadataChange context generated patch
          current).device.text textField =
            cleanOptional (current.text textField) := by
        have patched := DeviceView.text_withTexts current
          (patchedTexts patch current) textField
        rw [patchedTexts, noText] at patched
        exact patched
      rw [cleanOptional_of_cleaned governed] at column
      exact congrArg optionalValue column
  | capabilities =>
      have noCapabilities : patch.capabilities = none := by
        cases given : patch.capabilities with
        | none => rfl
        | some capabilities =>
            exact absurd (List.mem_append_right _ (List.mem_append_right _
              (Option.mem_toList.mpr
                (Option.map_eq_some_iff.mpr ⟨capabilities, given, rfl⟩))))
              (absent (textsValue capabilities))
      simp [DeviceView.value, metadataChange, setMetadata, noCapabilities,
        DeviceView.withTexts]

/-- An observation leaves a column alone that has a declared fact. -/
theorem value_observed {context : MutationContext} {generated : Generated}
    {observation : DeviceObservation} {declared : Field → Bool}
    {current : DeviceView} {field : Field} (isDeclared : declared field = true) :
    (observedChange context generated observation declared
      current).device.value field = current.value field := by
  cases field with
  | deviceType =>
      simp [DeviceView.value, observedChange, setObserved, isDeclared,
        DeviceView.withTexts]
  | text textField =>
      have column : (observedChange context generated observation declared
          current).device.text textField = current.text textField := by
        have observed := DeviceView.text_withTexts current
          (fun field =>
            if (cleanOptional (observation.text field)).isSome &&
                !declared (.text field) then
              cleanOptional (observation.text field)
            else current.text field) textField
        simp only [isDeclared, Bool.not_true, Bool.and_false,
          Bool.false_eq_true, if_false] at observed
        exact observed
      exact congrArg optionalValue column
  | capabilities =>
      simp [DeviceView.value, observedChange, setObserved, isDeclared,
        DeviceView.withTexts]

section Mutations

variable {db reached : InventoryDb} {call : InventoryCall} {change : Change}

/-- There are no facts about a device that is not there. -/
theorem DeclaredGovern.no_facts (govern : DeclaredGovern db) {key : FactKey}
    (absent : db.devices.lookup key.deviceId = none) {fact : FactRow}
    (found : db.facts.lookup key = some fact) : False := by
  have present := govern.device fact (Table.mem_of_lookup found)
  rw [Table.key_of_lookup found, absent] at present
  cases present

private theorem Makes.declared_manual (makes : Makes db call change) :
    ∀ fact ∈ change.facts, fact.key.provenance = .declared →
      fact.key.source = "manual" := by
  have byHand : ∀ {scope : Scope} {deviceId : Uuid}
      {values : List (Field × Value)},
      ∀ fact ∈ declaredFacts scope deviceId values,
        fact.key.provenance = .declared → fact.key.source = "manual" := by
    intro scope deviceId values fact member _
    rcases List.mem_map.mp member with ⟨given, _, rfl⟩
    rfl
  have notDeclared : ∀ {scope : Scope} {deviceId : Uuid}
      {observedAt : Timestamp} {values : List (Field × Value)},
      ∀ fact ∈ observedFacts scope deviceId observedAt values,
        fact.key.provenance = .declared → fact.key.source = "manual" := by
    intro scope deviceId observedAt values fact member isDeclared
    rcases List.mem_map.mp member with ⟨given, _, rfl⟩
    cases isDeclared
  cases makes with
  | manual absent => exact byHand
  | metadata found allowed => exact byHand
  | lifecycle found different allowed => exact nofun
  | observed only found inService => exact notDeclared
  | discovered noMatch absent => exact notDeclared

/-- The declared values of the device of a change are in its columns. -/
theorem Makes.governs (makes : Makes db call change)
    (govern : DeclaredGovern db) {field : Field} {fact : FactRow}
    (found : (db.facts.upsertAll setFact change.facts).lookup
      (declaredKey change.device.id field) = some fact) :
    change.device.value field = cleaned field fact.value := by
  cases makes with
  | @manual context generated input approvalRequired absent =>
      rcases lookup_declaredFacts (nodup_declaredValues input) found with
        given | ⟨_, old⟩
      · exact value_manualRow approvalRequired given
      · exact (govern.no_facts absent old).elim
  | @metadata context generated patch current stored allowed =>
      rcases lookup_declaredFacts (nodup_patchedValues patch) found with
        given | ⟨notGiven, old⟩
      · exact value_patched current given
      · have governed := govern.governs current.id current field fact
          (deviceIn_eq_some_iff.mp stored).1 old
        exact (value_unpatched notGiven governed).trans governed
  | @lifecycle context generated next reason current stored _ _ =>
      have governed := govern.governs current.id current field fact
        (deviceIn_eq_some_iff.mp stored).1 found
      have unchanged : (lifecycleChange context generated next reason
          current).device.value field = current.value field := by
        cases field with
        | text textField => cases textField <;> rfl
        | _ => rfl
      exact unchanged.trans governed
  | @observed context generated observation current _ stored _ =>
      have old : db.facts.lookup (declaredKey current.id field) = some fact :=
        (lookup_observedFacts rfl).symm.trans found
      have isDeclared : db.hasDeclaredFact current.id field = true :=
        hasDeclaredFact_eq_true_iff.mpr
          ⟨"manual", Option.isSome_of_eq_some old⟩
      exact (value_observed isDeclared).trans (govern.governs current.id
        current field fact (deviceIn_eq_some_iff.mp stored).1 old)
  | @discovered context generated observation _ absent =>
      have old : db.facts.lookup (declaredKey generated.deviceId field) =
          some fact := (lookup_observedFacts rfl).symm.trans found
      exact (govern.no_facts absent old).elim

private theorem Makes.keeps_declaredGovern (makes : Makes db call change)
    (govern : DeclaredGovern db) : DeclaredGovern (change.apply db) where
  manual := by
    intro fact member isDeclared
    rcases mem_upsertAll_facts member with written | ⟨stored, old, sameKey⟩
    · rcases List.mem_map.mp written with ⟨row, given, sameKey⟩
      rw [← sameKey] at isDeclared ⊢
      exact makes.declared_manual row given isDeclared
    · rw [← sameKey] at isDeclared ⊢
      exact govern.manual stored old isDeclared
  device := by
    intro fact member
    rw [lookup_devices_apply]
    by_cases same : change.device.id = fact.key.deviceId
    · rw [if_pos same]
      rfl
    · rw [if_neg same]
      rcases mem_upsertAll_facts member with written | ⟨stored, old, sameKey⟩
      · rcases List.mem_map.mp written with ⟨row, given, sameKey⟩
        have ofDevice := (makes.concerns.facts row given).2
        rw [sameKey] at ofDevice
        exact absurd ofDevice.symm same
      · rw [← sameKey]
        exact govern.device stored old
  governs := by
    intro deviceId device field fact deviceFound factFound
    rw [lookup_devices_apply] at deviceFound
    by_cases same : change.device.id = deviceId
    · rw [if_pos same] at deviceFound
      cases deviceFound
      subst same
      exact makes.governs govern factFound
    · rw [if_neg same] at deviceFound
      have unchanged : SameDevice db (change.apply db) deviceId :=
        sameDevice_apply makes.concerns (Ne.symm same)
      have old : db.facts.lookup (declaredKey deviceId field) = some fact :=
        (unchanged.facts (declaredKey deviceId field) rfl).symm.trans factFound
      exact govern.governs deviceId device field fact deviceFound old

private theorem InventoryDb.IsEmpty.declaredGovern (isEmpty : db.IsEmpty) :
    DeclaredGovern db where
  manual := by simp [isEmpty.facts]
  device := by simp [isEmpty.facts]
  governs := by
    intro deviceId device field fact _ found
    have member := Table.mem_of_lookup found
    rw [isEmpty.facts] at member
    cases member

theorem declaredGovern_of_reachable {library : InventoryLibrary}
    (reachable : (inventoryClient library).Reachable InventoryDb.IsEmpty db) :
    DeclaredGovern db := by
  refine (invariant_of_mutations (fun _ isEmpty => isEmpty.sound)
    (fun _ isEmpty => isEmpty.declaredGovern) ?_ reachable).2
  intro call change state reached _ govern mutation
  rcases mutation.recorded with ⟨auditRow, outboxRow, _, _, _, rfl⟩
  have kept := mutation.makes.keeps_declaredGovern govern
  exact ⟨kept.manual, kept.device, kept.governs⟩

end Mutations

/-- Some operator has declared a value for a field of a device. -/
def InventoryDb.Declares (db : InventoryDb) (deviceId : Uuid)
    (field : Field) : Prop :=
  ∃ fact ∈ db.facts.rows, fact.key.deviceId = deviceId ∧
    fact.key.fieldName = field ∧ fact.key.provenance = .declared

private theorem InventoryDb.Declares.hasDeclaredFact {db : InventoryDb}
    {deviceId : Uuid} {field : Field} (declares : db.Declares deviceId field) :
    db.hasDeclaredFact deviceId field = true := by
  rcases declares with ⟨fact, member, rfl, rfl, isDeclared⟩
  exact List.any_eq_true.mpr ⟨fact, member, by simp [isDeclared]⟩

/-- Whatever an observation says, a column with a declared fact stays. -/
theorem value_of_reconcileObservation {library : InventoryLibrary}
    {context : MutationContext} {generated : Generated}
    {observation : DeviceObservation} {db reached : InventoryDb}
    {plan : List (Option SqlError)}
    {outcome : Except InventoryError ReconciliationResult}
    (sound : IdentifiersSound db)
    (ended : (reconcileObservation library context generated
      observation).callFaulty plan db = (outcome, reached))
    {deviceId : Uuid} {device : DeviceView} {field : Field}
    (found : db.devices.lookup deviceId = some device)
    (declares : db.Declares deviceId field) :
    ∃ after, reached.devices.lookup deviceId = some after ∧
      after.value field = device.value field := by
  cases outcome with
  | error failure =>
      rw [Program.callFaulty_error
        (commitsLast_reconcileObservation observation) ended]
      exact ⟨device, found, rfl⟩
  | ok result =>
      have committed := Program.callFaulty_ok ended
      rcases valid_of_reconcileObservation committed with
        ⟨contextValid, valid⟩
      cases reconciles sound contextValid valid committed with
      | @updated current reached mutation only stored inService =>
          rcases mutation.recorded with ⟨auditRow, outboxRow, _, _, _, rfl⟩
          have rows := lookup_devices_apply (observedChange context generated
            observation (db.hasDeclaredFact current.id) current) db deviceId
          by_cases same : current.id = deviceId
          · subst same
            have isCurrent : device = current :=
              Option.some.inj
                (found.symm.trans (deviceIn_eq_some_iff.mp stored).1)
            subst isCurrent
            exact ⟨_, rows.trans (if_pos rfl),
              value_observed declares.hasDeclaredFact⟩
          · exact ⟨device, (rows.trans (if_neg same)).trans found, rfl⟩
      | @created reached mutation noMatch absent =>
          rcases mutation.recorded with ⟨auditRow, outboxRow, _, _, _, rfl⟩
          have rows := lookup_devices_apply (discoveredChange context generated
            observation) db deviceId
          have different : generated.deviceId ≠ deviceId := by
            rintro rfl
            rw [absent] at found
            cases found
          exact ⟨device, (rows.trans (if_neg different)).trans found, rfl⟩

/-- In every reachable state each column with a declared fact holds the cleaned
declared value, and no observation changes such a column. -/
theorem declared_facts_govern {library : InventoryLibrary} {db : InventoryDb}
    (reachable : (inventoryClient library).Reachable InventoryDb.IsEmpty db) :
    (∀ device ∈ db.devices.rows, ∀ fact ∈ db.facts.rows,
      fact.key.deviceId = device.id → fact.key.provenance = .declared →
        device.value fact.key.fieldName =
          cleaned fact.key.fieldName fact.value) ∧
    ∀ (context : MutationContext) (generated : Generated)
      (observation : DeviceObservation) (plan : List (Option SqlError))
      (deviceId : Uuid) (device : DeviceView) (field : Field),
      db.devices.lookup deviceId = some device →
      db.Declares deviceId field →
      ∃ after, (((reconcileObservation library context generated
          observation).callFaulty plan db).2).devices.lookup deviceId =
            some after ∧
        after.value field = device.value field := by
  have govern := declaredGovern_of_reachable reachable
  constructor
  · intro device deviceMember fact factMember ofDevice isDeclared
    have byHand := govern.manual fact factMember isDeclared
    have sameKey : fact.key = declaredKey device.id fact.key.fieldName := by
      rw [declaredKey, ← ofDevice, ← isDeclared, ← byHand]
    have factFound := Table.lookup_of_mem factMember
    rw [sameKey] at factFound
    exact govern.governs device.id device fact.key.fieldName fact
      (Table.lookup_of_mem deviceMember) factFound
  · intro context generated observation plan deviceId device field found
      declares
    exact value_of_reconcileObservation
      (identifiersSound_of_reachable reachable) Prod.mk.eta.symm found declares

namespace Sample

/-- A device that an operator enters by hand. -/
def edge : NewDevice where
  deviceType := .switch
  displayName := some " Edge "
  hostname := none
  vendor := none
  model := none
  osName := none
  osVersion := none
  firmwareVersion := none
  description := none
  operationalOwner := none
  capabilities := []
  identifiers := [⟨.serial, "foc1", "manual", none⟩]

def edgeRow : DeviceView := manualRow context first edge false

def edgeDraft : AuditEventDraft :=
  mutationDraft context first "inventory.device.create" edgeRow none
    (some (edgeRow.toValue formatTime))

def edgeDigest : FixedBytes 32 :=
  ⟨[235, 230, 136, 158, 245, 199, 52, 77, 99, 129, 41, 126, 245, 102, 47, 235,
    177, 65, 111, 134, 182, 171, 5, 31, 34, 14, 25, 180, 196, 177, 192, 110], by decide⟩

/-- The library of the runs, where the hash function knows this draft. -/
def edgeLibrary : InventoryLibrary where
  audit :=
    { library.audit with
      sha256 := fun message =>
        if message = (Link.mk [] edgeDraft edgeDigest).message then edgeDigest
        else library.audit.sha256 message }
  formatTime := formatTime

/-- The state after the device has been entered. -/
def entered : InventoryDb :=
  ((createManual edgeLibrary context first edge false).call start).2

/-- What the entry answers and leaves, in one evaluation. -/
theorem edge_outcome :
    ((createManual edgeLibrary context first edge false).call start).1 =
        .ok edgeRow ∧
      entered.devices.lookup edgeRow.id = some edgeRow ∧
      entered.facts.rows.any (fun fact =>
        fact.key = declaredKey edgeRow.id (.text .displayName)) = true := by
  decide +kernel

private theorem edge_ended :
    (createManual edgeLibrary context first edge false).call start =
      (.ok edgeRow, entered) := by
  rw [entered]
  exact Program.call_of_outcome edge_outcome.1

private theorem reachable_entered {initial : InventoryDb → Prop}
    (isInitial : initial start) :
    (inventoryClient edgeLibrary).Reachable initial entered := by
  have begun : (inventoryClient edgeLibrary).Reachable initial start :=
    .initial isInitial
  have ended : ((inventoryClient edgeLibrary).program
      (InventoryCall.createManual context first edge false)).call start =
        (.ok edgeRow, entered) := edge_ended
  exact begun.of_call ended

end Sample

/-- The name of the entered device is declared, and no observation changes it. -/
theorem declared_facts_govern_entered :
    (∀ device ∈ Sample.entered.devices.rows,
      ∀ fact ∈ Sample.entered.facts.rows,
      fact.key.deviceId = device.id → fact.key.provenance = .declared →
        device.value fact.key.fieldName =
          cleaned fact.key.fieldName fact.value) ∧
    ∀ (context : MutationContext) (generated : Generated)
      (observation : DeviceObservation) (plan : List (Option SqlError)),
      ∃ after, (((reconcileObservation Sample.edgeLibrary context generated
          observation).callFaulty plan Sample.entered).2).devices.lookup
            Sample.edgeRow.id = some after ∧
        after.value (.text .displayName) = .string "Edge" := by
  have reachable := Sample.reachable_entered Sample.isEmpty_start
  rcases declared_facts_govern reachable with ⟨governed, kept⟩
  refine ⟨governed, ?_⟩
  intro context generated observation plan
  rcases Sample.edge_outcome with ⟨_, found, declared⟩
  have declares : Sample.entered.Declares Sample.edgeRow.id
      (.text .displayName) := by
    rcases List.any_eq_true.mp declared with ⟨fact, member, isKey⟩
    have sameKey := of_decide_eq_true isKey
    exact ⟨fact, member, by rw [sameKey]; rfl, by rw [sameKey]; rfl,
      by rw [sameKey]; rfl⟩
  have isName : Sample.edgeRow.value (.text .displayName) = .string "Edge" := by
    decide
  rw [← isName]
  exact kept context generated observation plan Sample.edgeRow.id
    Sample.edgeRow (.text .displayName) found declares

end NetworkManager.InventoryStore
