import Mathlib.Data.List.Flatten
import Mathlib.Data.List.ReduceOption
import NetworkManager.InventoryStore.Declared
import NetworkManager.Transaction.Runs

/-!
# Validity of device rows

The rules that manual input is checked against, as a property of the rows.  The
checks of a mutation cover most of what it writes; a name or a serial number
that is copied from an identifier, the capabilities of an observation and the
reason of a retirement are written without them.
-/

namespace NetworkManager.InventoryStore

open NetworkManager.Foundation
open NetworkManager.Domain.Inventory
open NetworkManager.Transaction

/-- The length, in bytes, that a text of this field may have. -/
def TextField.limit : TextField → Nat
  | .description => 4096
  | _ => 512

/-- The column is null, or a trimmed text of limited length. -/
def ValidText (limit : Nat) (column : Option String) : Prop :=
  ∀ text, column = some text →
    trim text = text ∧ text.isEmpty = false ∧ text.utf8ByteSize ≤ limit

def ValidCapabilities (capabilities : List String) : Prop :=
  capabilities.length ≤ 256 ∧
    ∀ value ∈ capabilities, isBlank value = false ∧ value.utf8ByteSize ≤ 120

structure DeviceView.Valid (device : DeviceView) : Prop where
  texts : ∀ field : TextField, ValidText field.limit (device.text field)
  serialNumber : ValidText 512 device.serialNumber
  retirementReason : ValidText 512 device.retirementReason
  capabilities : ValidCapabilities device.capabilities

def RowsValid (db : InventoryDb) : Prop :=
  ∀ device ∈ db.devices.rows, device.Valid

private theorem utf8ByteSize_ofList (characters : List Char) :
    (String.ofList characters).utf8ByteSize =
      (characters.flatMap String.utf8EncodeChar).length := by
  rw [← utf8Bytes_ofList, utf8Bytes, Array.length_toList]
  rfl

private theorem stripEnds_sublist
    (strip : Char → Bool) (characters : List Char) :
    (stripEnds strip characters).Sublist characters :=
  (List.rdropWhile_prefix strip _).sublist.trans
    (List.dropWhile_suffix strip).sublist

/-- Trimming does not make a text longer. -/
theorem utf8ByteSize_trim_le (text : String) :
    (trim text).utf8ByteSize ≤ text.utf8ByteSize := by
  have whole : text = String.ofList text.toList := by simp
  have shorter := ((stripEnds_sublist isWhiteSpace text.toList).flatMap
    String.utf8EncodeChar).length_le
  rw [trim, utf8ByteSize_ofList]
  rw [← utf8ByteSize_ofList text.toList, ← whole] at shorter
  exact shorter

private theorem validText_none (limit : Nat) : ValidText limit none := nofun

/-- A cleaned column is valid if the trimmed text is short enough. -/
theorem validText_cleanOptional_iff {limit : Nat} {value : Option String} :
    ValidText limit (cleanOptional value) ↔
      ∀ given, value = some given → (trim given).utf8ByteSize ≤ limit := by
  cases value with
  | none => simp [cleanOptional, ValidText]
  | some given =>
      by_cases blank : trim given = ""
      · simp [cleanOptional, ValidText, blank]
      · simp [cleanOptional, ValidText, blank]

private theorem ValidText.cleanOptional {limit : Nat} {column : Option String}
    (valid : ValidText limit column) :
    ValidText limit (cleanOptional column) := by
  apply validText_cleanOptional_iff.mpr
  intro text isText
  rcases valid text isText with ⟨trimmed, _, short⟩
  rw [trimmed]
  exact short

/-- A text that is short enough is so once it is cleaned. -/
theorem validText_cleanOptional {limit : Nat} {value : Option String}
    (short : ∀ given, value = some given → given.utf8ByteSize ≤ limit) :
    ValidText limit (cleanOptional value) := by
  apply validText_cleanOptional_iff.mpr
  intro given isGiven
  exact (utf8ByteSize_trim_le given).trans (short given isGiven)

theorem require_eq_ok_iff {passed : Bool} {message : String} :
    require passed message = .ok () ↔ passed = true := by
  cases passed <;> simp [require]

private theorem validateCapabilities_eq_ok_iff {capabilities : List String} :
    validateCapabilities capabilities = .ok () ↔
      ValidCapabilities capabilities := by
  rw [validateCapabilities, require_eq_ok_iff]
  simp [ValidCapabilities]

private theorem validCapabilities_nil : ValidCapabilities [] := by
  simp [ValidCapabilities]

private theorem validateDescription_eq_ok {description : Option String}
    (valid : validateDescription description = .ok ()) :
    ∀ given, description = some given → given.utf8ByteSize ≤ 4096 := by
  rw [validateDescription, require_eq_ok_iff] at valid
  rintro given rfl
  simpa using valid

theorem validateTextFields_eq_ok {values : List (Option String)}
    (valid : validateTextFields values = .ok ()) :
    ∀ given, some given ∈ values →
      isBlank given = false ∧ given.utf8ByteSize ≤ 512 := by
  intro given member
  rw [validateTextFields, require_eq_ok_iff] at valid
  have listed : given ∈ values.reduceOption :=
    List.reduceOption_mem_iff.mpr member
  have checked : ∀ value ∈ values.reduceOption,
      isBlank value = false ∧ value.utf8ByteSize ≤ 512 := by
    simpa using valid
  exact checked given listed

private theorem NewDevice.validate_eq_ok {input : NewDevice}
    (valid : input.validate = .ok ()) :
    (∀ field given, input.text field = some given →
      given.utf8ByteSize ≤ field.limit) ∧
    ValidCapabilities input.capabilities := by
  unfold NewDevice.validate at valid
  rcases require_bind_eq_ok valid with ⟨texts, valid⟩
  rcases require_bind_eq_ok valid with ⟨described, valid⟩
  rcases require_bind_eq_ok valid with ⟨capable, _⟩
  have short := validateTextFields_eq_ok (require_eq_ok_iff.mpr texts)
  constructor
  · intro field given isGiven
    cases field with
    | description =>
        exact validateDescription_eq_ok (require_eq_ok_iff.mpr described) given
          isGiven
    | _ => exact (short given (by simp_all [NewDevice.text])).2
  · exact validateCapabilities_eq_ok_iff.mp (require_eq_ok_iff.mpr capable)

theorem DeviceObservation.texts_of_validate {observation : DeviceObservation}
    (valid : observation.validate = .ok ()) :
    ∀ field given, observation.text field = some given →
      isBlank given = false ∧ given.utf8ByteSize ≤ field.limit := by
  unfold DeviceObservation.validate at valid
  rcases require_bind_eq_ok valid with ⟨_, valid⟩
  rcases require_bind_eq_ok valid with ⟨texts, _⟩
  have short := validateTextFields_eq_ok (require_eq_ok_iff.mpr texts)
  intro field given isGiven
  cases field with
  | description => cases isGiven
  | operationalOwner => cases isGiven
  | _ =>
      apply short given
      rw [← isGiven]
      exact List.mem_map_of_mem (by decide)

private theorem MetadataPatch.validate_eq_ok {patch : MetadataPatch}
    (valid : patch.validate = .ok ()) :
    (∀ field given, (patch.text field).join = some given →
      given.utf8ByteSize ≤ field.limit) ∧
    ∀ capabilities, patch.capabilities = some capabilities →
      ValidCapabilities capabilities := by
  unfold MetadataPatch.validate at valid
  rcases require_bind_eq_ok valid with ⟨texts, valid⟩
  rcases require_bind_eq_ok valid with ⟨described, capable⟩
  have short := validateTextFields_eq_ok (require_eq_ok_iff.mpr texts)
  constructor
  · intro field given isGiven
    cases field with
    | description =>
        exact validateDescription_eq_ok (require_eq_ok_iff.mpr described) given
          isGiven
    | _ => exact (short given (by simp_all [MetadataPatch.text, nestedRef])).2
  · intro capabilities isGiven
    rw [isGiven] at capable
    exact validateCapabilities_eq_ok_iff.mp capable

/-- The value that is copied from an identifier of this kind is short. -/
def ShortIdentifier (identifiers : List NewIdentifier)
    (kind : IdentifierKind) : Prop :=
  ∀ value, firstIdentifierValue identifiers kind = some value →
    value.utf8ByteSize ≤ 512

/-- The name and the serial number that a new device takes from its
identifiers are short. -/
structure FitsNewRow (hostname : Option String)
    (identifiers : List NewIdentifier) : Prop where
  hostname : hostname = none → ShortIdentifier identifiers .hostname
  serial : ShortIdentifier identifiers .serial

/-- The values that a call writes unchecked are within the limits. -/
def WithinLimits (db : InventoryDb) : InventoryCall → Prop
  | .createManual _ _ input _ => FitsNewRow input.hostname input.identifiers
  | .updateMetadata .. => True
  | .transitionLifecycle context _ deviceId _ next reason =>
      ∀ current, db.deviceIn context.scope deviceId = some current →
        current.lifecycle ≠ next → next = .retired →
        ∀ given, reason = some given → (trim given).utf8ByteSize ≤ 512
  | .reconcileObservation context _ observation =>
      (db.matching context.scope observation = ∅ →
        FitsNewRow observation.hostname observation.identifiers ∧
          ValidCapabilities observation.capabilities) ∧
      ∀ deviceId, db.matching context.scope observation = {deviceId} →
        db.hasDeclaredFact deviceId .capabilities = false →
        ValidCapabilities observation.capabilities

private theorem trim_firstIdentifierValue {identifiers : List NewIdentifier}
    {kind : IdentifierKind} {value : String}
    (isFirst : firstIdentifierValue identifiers kind = some value) :
    trim value = value := by
  rcases Option.map_eq_some_iff.mp isFirst with ⟨identifier, _, rfl⟩
  exact trim_trim identifier.value

private theorem validText_firstIdentifierValue_iff
    {identifiers : List NewIdentifier}
    {kind : IdentifierKind} :
    ValidText 512 (cleanOptional (firstIdentifierValue identifiers kind)) ↔
      ShortIdentifier identifiers kind := by
  rw [validText_cleanOptional_iff]
  refine forall_congr' fun value => forall_congr' fun isFirst => ?_
  rw [trim_firstIdentifierValue isFirst]

/-- A new row is valid exactly if what it takes from its identifiers is short
and its capabilities are valid. -/
theorem valid_newRow_iff {row : DeviceView}
    {texts : TextField → Option String} {identifiers : List NewIdentifier}
    (short : ∀ field given, texts field = some given →
      given.utf8ByteSize ≤ field.limit)
    (hostname : row.hostname = cleanOptional ((texts .hostname).or
      (firstIdentifierValue identifiers .hostname)))
    (others : ∀ field, field ≠ .hostname →
      row.text field = cleanOptional (texts field))
    (serial : row.serialNumber =
      cleanOptional (firstIdentifierValue identifiers .serial))
    (noReason : row.retirementReason = none) :
    row.Valid ↔ FitsNewRow (texts .hostname) identifiers ∧
      ValidCapabilities row.capabilities := by
  constructor
  · intro valid
    refine ⟨⟨?_, ?_⟩, valid.capabilities⟩
    · intro noHostname
      have named : ValidText 512 row.hostname := valid.texts .hostname
      rw [hostname, noHostname, Option.none_or] at named
      exact validText_firstIdentifierValue_iff.mp named
    · apply validText_firstIdentifierValue_iff.mp
      rw [← serial]
      exact valid.serialNumber
  · rintro ⟨fits, capabilities⟩
    refine ⟨fun field => ?_, ?_, ?_, capabilities⟩
    · by_cases isHostname : field = .hostname
      · subst isHostname
        have named : ValidText 512 row.hostname := by
          rw [hostname]
          cases given : texts .hostname with
          | none =>
              rw [Option.none_or]
              exact validText_firstIdentifierValue_iff.mpr
                (fits.hostname given)
          | some name =>
              rw [Option.some_or, ← given]
              exact validText_cleanOptional (short .hostname)
        exact named
      · rw [others field isHostname]
        exact validText_cleanOptional (short field)
    · rw [serial]
      exact validText_firstIdentifierValue_iff.mpr fits.serial
    · rw [noReason]
      exact validText_none 512

/-! ## One call -/

/-- The input of the call passes its checks. -/
def InventoryCall.Accepted : InventoryCall → Prop
  | .createManual _ _ input _ => input.validate = .ok ()
  | .updateMetadata _ _ _ _ patch => patch.validate = .ok ()
  | .transitionLifecycle .. => True
  | .reconcileObservation _ _ observation => observation.validate = .ok ()

section Calls

variable {library : InventoryLibrary} {db reached : InventoryDb}
  {call : InventoryCall} {change : Change}

/-- A call that returns a result has accepted its input. -/
theorem accepted_of_call {result : call.Result}
    (ended : ((inventoryClient library).program call).call db =
      (.ok result, reached)) : call.Accepted := by
  cases call with
  | createManual context generated input approvalRequired =>
      rcases Program.call_eq_ok ended with ⟨final, steps, _⟩
      rcases Program.eval_bind_eq_ok steps with ⟨_, _, checked, steps⟩
      rw [(Program.eval_ofExcept_eq_ok checked).2] at steps
      rcases Program.eval_bind_eq_ok steps with ⟨_, _, checked, _⟩
      exact (Program.eval_ofExcept_eq_ok checked).1
  | updateMetadata context generated deviceId expectedVersion patch =>
      rcases Program.call_eq_ok ended with ⟨final, steps, _⟩
      rcases Program.eval_bind_eq_ok steps with ⟨_, _, checked, steps⟩
      rw [(Program.eval_ofExcept_eq_ok checked).2] at steps
      rcases Program.eval_bind_eq_ok steps with ⟨_, _, checked, _⟩
      exact (Program.eval_ofExcept_eq_ok checked).1
  | transitionLifecycle => trivial
  | reconcileObservation context generated observation =>
      exact (valid_of_reconcileObservation ended).2

/-- A patched row is valid if the row was. -/
theorem valid_patched {context : MutationContext} {generated : Generated}
    {patch : MetadataPatch} {current : DeviceView} (valid : current.Valid)
    (accepted : patch.validate = .ok ()) :
    (metadataChange context generated patch current).device.Valid := by
  rcases MetadataPatch.validate_eq_ok accepted with ⟨short, capable⟩
  refine ⟨fun field => ?_, valid.serialNumber, valid.retirementReason, ?_⟩
  · have column : (metadataChange context generated patch
        current).device.text field = patchedTexts patch current field :=
      DeviceView.text_withTexts current (patchedTexts patch current) field
    rw [column, patchedTexts]
    cases given : patch.text field with
    | none => exact (valid.texts field).cleanOptional
    | some text =>
        apply validText_cleanOptional
        intro value isValue
        apply short field value
        rw [given]
        exact isValue
  · have column : (metadataChange context generated patch
        current).device.capabilities =
          patch.capabilities.getD current.capabilities := rfl
    rw [column]
    cases given : patch.capabilities with
    | none => exact valid.capabilities
    | some capabilities => exact capable capabilities given

/-- An observed row is valid exactly if the capabilities that it takes from
the observation are. -/
theorem valid_observed_iff {context : MutationContext} {generated : Generated}
    {observation : DeviceObservation} {declared : Field → Bool}
    {current : DeviceView} (valid : current.Valid)
    (accepted : observation.validate = .ok ()) :
    (observedChange context generated observation declared
        current).device.Valid ↔
      (declared .capabilities = false →
        ValidCapabilities observation.capabilities) := by
  have capabilities : (observedChange context generated observation declared
      current).device.capabilities =
        if !observation.capabilities.isEmpty && !declared .capabilities then
          observation.capabilities
        else current.capabilities := rfl
  constructor
  · intro validAfter notDeclared
    have kept := validAfter.capabilities
    rw [capabilities, notDeclared] at kept
    by_cases isEmpty : observation.capabilities.isEmpty = true
    · rw [List.isEmpty_iff.mp isEmpty]
      exact validCapabilities_nil
    · simpa [isEmpty] using kept
  · intro capable
    refine ⟨fun field => ?_, valid.serialNumber, valid.retirementReason, ?_⟩
    · have column := DeviceView.text_withTexts current
        (fun field =>
          if (cleanOptional (observation.text field)).isSome &&
              !declared (.text field) then
            cleanOptional (observation.text field)
          else current.text field) field
      have isColumn : (observedChange context generated observation declared
          current).device.text field =
            if (cleanOptional (observation.text field)).isSome &&
                !declared (.text field) then
              cleanOptional (observation.text field)
            else current.text field := column
      rw [isColumn]
      split
      · exact validText_cleanOptional fun given isGiven =>
          (DeviceObservation.texts_of_validate accepted field given isGiven).2
      · exact valid.texts field
    · rw [capabilities]
      split
      next taken =>
        have notDeclared : declared .capabilities = false := by
          simp only [Bool.and_eq_true, Bool.not_eq_true'] at taken
          exact taken.2
        exact capable notDeclared
      next => exact valid.capabilities

/-- A moved row is valid exactly if the reason that it takes is short. -/
theorem valid_moved_iff {context : MutationContext} {generated : Generated}
    {next : DeviceLifecycle} {reason : Option String} {current : DeviceView}
    (valid : current.Valid) :
    (lifecycleChange context generated next reason current).device.Valid ↔
      (next = .retired → ∀ given, reason = some given →
        (trim given).utf8ByteSize ≤ 512) := by
  have texts : ∀ field, (lifecycleChange context generated next reason
      current).device.text field = current.text field := by
    intro field
    cases field <;> rfl
  constructor
  · rintro validAfter rfl
    exact validText_cleanOptional_iff.mp validAfter.retirementReason
  · intro short
    refine ⟨fun field => ?_, valid.serialNumber, ?_, valid.capabilities⟩
    · rw [texts field]
      exact valid.texts field
    · have column : (lifecycleChange context generated next reason
          current).device.retirementReason =
            if next = .retired then cleanOptional reason
            else if current.lifecycle = .retired ∧ next = .pendingReview then
              none
            else current.retirementReason := rfl
      rw [column]
      split
      next isRetired =>
        exact validText_cleanOptional_iff.mpr (short isRetired)
      next =>
        split
        · exact validText_none 512
        · exact valid.retirementReason

/-- The row that a call writes is valid exactly if the call is within the
limits. -/
theorem Makes.valid_iff (makes : Makes db call change)
    (accepted : call.Accepted) (valid : RowsValid db) :
    change.device.Valid ↔ WithinLimits db call := by
  have validRow : ∀ {scope : Scope} {current : DeviceView},
      db.deviceIn scope current.id = some current → current.Valid := by
    intro scope current found
    exact valid current
      (Table.mem_of_lookup (deviceIn_eq_some_iff.mp found).1)
  cases makes with
  | @manual context generated input approvalRequired absent =>
      rcases NewDevice.validate_eq_ok accepted with ⟨short, capable⟩
      have isValid : (manualRow context generated input
          approvalRequired).Valid ↔ FitsNewRow input.hostname
            input.identifiers ∧ ValidCapabilities input.capabilities := by
        apply valid_newRow_iff short rfl ?_ rfl rfl
        intro field notHostname
        cases field <;> first | rfl | exact absurd rfl notHostname
      exact isValid.trans (and_iff_left capable)
  | metadata found allowed =>
      exact iff_of_true (valid_patched (validRow found) accepted) trivial
  | @lifecycle context generated next reason current found different allowed =>
      refine (valid_moved_iff (validRow found)).trans ?_
      constructor
      · intro short other otherFound _
        exact short
      · intro within
        exact within current found different
  | @observed context generated observation current only found inService =>
      refine (valid_observed_iff (validRow found) accepted).trans ?_
      constructor
      · intro capable
        constructor
        · intro noMatch
          rw [only] at noMatch
          exact absurd noMatch (Finset.singleton_ne_empty _)
        · intro deviceId isOnly notDeclared
          have same : current.id = deviceId :=
            Finset.singleton_injective (only.symm.trans isOnly)
          exact capable (same ▸ notDeclared)
      · intro within
        exact within.2 current.id only
  | @discovered context generated observation noMatch absent =>
      have isValid : (discoveredChange context generated
          observation).device.Valid ↔ FitsNewRow observation.hostname
            observation.identifiers ∧
              ValidCapabilities observation.capabilities := by
        apply valid_newRow_iff (fun field given isGiven =>
          (DeviceObservation.texts_of_validate accepted field given
            isGiven).2) rfl ?_ rfl rfl
        intro field notHostname
        cases field <;> first | rfl | exact absurd rfl notHostname
      refine isValid.trans ?_
      constructor
      · intro fits
        refine ⟨fun _ => fits, fun deviceId only => ?_⟩
        rw [noMatch] at only
        exact absurd only.symm (Finset.singleton_ne_empty _)
      · intro within
        exact within.1 noMatch

/-- After a mutation the rows are valid exactly if the written one is. -/
theorem Mutation.rowsValid_iff (mutation : Mutation db call change reached)
    (valid : RowsValid db) : RowsValid reached ↔ change.device.Valid := by
  rcases mutation.recorded with ⟨auditRow, outboxRow, _, _, _, rfl⟩
  constructor
  · intro validAfter
    exact validAfter change.device (Table.mem_put_self _ _)
  · intro validRow device member
    rcases Table.mem_put.mp member with rfl | ⟨old, _⟩
    · exact validRow
    · exact valid device old

/-- A call that returns a result keeps the rows valid exactly if it is within
the limits. -/
theorem rowsValid_of_call_iff (sound : IdentifiersSound db)
    (valid : RowsValid db) {result : call.Result}
    (ended : ((inventoryClient library).program call).call db =
      (.ok result, reached)) :
    RowsValid reached ↔ WithinLimits db call := by
  have accepted := accepted_of_call ended
  have ofMutation : ∀ {change : Change}, Mutation db call change reached →
      (RowsValid reached ↔ WithinLimits db call) := by
    intro change mutation
    exact (mutation.rowsValid_iff valid).trans
      (mutation.makes.valid_iff accepted valid)
  cases call with
  | transitionLifecycle context generated deviceId expectedVersion next
      reason =>
      rcases mutation_transitionLifecycle sound ended with
        ⟨rfl, current, found, _, already, _⟩ | ⟨change, _, mutation⟩
      · apply iff_of_true valid
        intro other otherFound different
        rw [found] at otherFound
        cases otherFound
        exact absurd already different
      · exact ofMutation mutation
  | createManual context generated input approvalRequired =>
      rcases mutation_createManual sound ended with ⟨change, _, mutation⟩
      exact ofMutation mutation
  | updateMetadata context generated deviceId expectedVersion patch =>
      rcases mutation_updateMetadata sound ended with ⟨change, _, mutation⟩
      exact ofMutation mutation
  | reconcileObservation context generated observation =>
      rcases valid_of_reconcileObservation ended with ⟨contextValid, inputValid⟩
      cases reconciles sound contextValid inputValid ended with
      | updated mutation => exact ofMutation mutation
      | created mutation => exact ofMutation mutation

end Calls

private theorem InventoryDb.IsEmpty.rowsValid {db : InventoryDb}
    (isEmpty : db.IsEmpty) : RowsValid db := by
  simp [RowsValid, isEmpty.devices]

/-- The rows are valid throughout a run exactly if every call of it that
returns a result is within the limits. -/
theorem rowsValid_throughout_iff {library : InventoryLibrary}
    {first : InventoryDb} (isEmpty : first.IsEmpty)
    (attempts : List (inventoryClient library).Attempt) :
    (∀ earlier, earlier <+: attempts →
      RowsValid ((inventoryClient library).run first earlier)) ↔
    ∀ earlier attempt, earlier ++ [attempt] <+: attempts →
      (inventoryClient library).Succeeds
        ((inventoryClient library).run first earlier) attempt →
      WithinLimits ((inventoryClient library).run first earlier)
        attempt.1 := by
  have step : ∀ state, ∀ attempt ∈ attempts, IdentifiersSound state →
      RowsValid state →
      IdentifiersSound ((inventoryClient library).after state attempt) ∧
        (RowsValid ((inventoryClient library).after state attempt) ↔
          ((inventoryClient library).Succeeds state attempt →
            WithinLimits state attempt.1)) := by
    intro state attempt _ sound valid
    by_cases succeeds : (inventoryClient library).Succeeds state attempt
    · rcases succeeds.call with ⟨result, ended⟩
      refine ⟨?_, ?_⟩
      · rcases mutation_of_call sound attempt.1 ended with
          same | ⟨change, mutation⟩
        · rw [same]
          exact sound
        · exact mutation.sound
      · rw [rowsValid_of_call_iff sound valid ended]
        exact ⟨fun within _ => within, fun within => within succeeds⟩
    · rw [Client.after_eq_of_not_succeeds (commitsLast_inventoryClient _)
        succeeds]
      exact ⟨sound, iff_of_true valid fun returned => absurd returned succeeds⟩
  exact @Client.throughout_iff inventorySql InventoryError
    (inventoryClient library) IdentifiersSound RowsValid _ attempts step first
    isEmpty.sound isEmpty.rowsValid

namespace Sample

/-- The library of the runs, where the hash function knows these events. -/
def libraryOf (links : List Link) : InventoryLibrary where
  audit :=
    { library.audit with
      sha256 := fun message =>
        ((links.find? fun link => link.message = message).map
          Link.digest).getD (.replicate 32 0) }
  formatTime := formatTime

/-- An observation that lists a capability without a name. -/
def listing : DeviceObservation := { strong with capabilities := [""] }

def listingDigest : FixedBytes 32 :=
  ⟨[188, 98, 206, 220, 56, 110, 125, 61, 35, 249, 184, 168, 146, 234, 205, 13,
    62, 13, 217, 122, 255, 255, 198, 138, 150, 173, 150, 193, 46, 40, 196, 10],
    by decide⟩

def listingLibrary : InventoryLibrary :=
  libraryOf [⟨[], draftOf first listing, listingDigest⟩]

end Sample

/-- An observation writes a capability without a name. -/
theorem not_rowsValid_of_reachable :
    ¬∀ (library : InventoryLibrary) (db : InventoryDb),
      (inventoryClient library).Reachable InventoryDb.IsEmpty db →
      RowsValid db := by
  intro valid
  have begun : (inventoryClient Sample.listingLibrary).Reachable
      InventoryDb.IsEmpty Sample.start := .initial Sample.isEmpty_start
  have reachable := begun.call (InventoryCall.reconcileObservation
    Sample.context Sample.first Sample.listing) []
  have written : ((reconcileObservation Sample.listingLibrary Sample.context
      Sample.first Sample.listing).call Sample.start).2.devices.rows.map
        DeviceView.capabilities = [[""]] := by
    decide +kernel
  have listed : [""] ∈ ((reconcileObservation Sample.listingLibrary
      Sample.context Sample.first Sample.listing).call
        Sample.start).2.devices.rows.map DeviceView.capabilities := by
    rw [written]
    exact List.mem_singleton_self _
  rcases List.mem_map.mp listed with ⟨device, member, isListed⟩
  have capable := (valid _ _ reachable device member).capabilities.2 ""
    (by simp [isListed])
  exact absurd capable.1 (by decide)

/-- The row of a device that is entered by hand is valid. -/
theorem rowsValid_throughout_entered :
    RowsValid ((inventoryClient Sample.edgeLibrary).run Sample.start
      [(InventoryCall.createManual Sample.context Sample.first Sample.edge
        false, [])]) := by
  refine (rowsValid_throughout_iff Sample.isEmpty_start _).mpr ?_ _
    (List.prefix_refl _)
  intro earlier attempt isPrefix _
  have only : earlier = [] ∧ attempt = (InventoryCall.createManual
      Sample.context Sample.first Sample.edge false, []) := by
    rcases isPrefix with ⟨later, split⟩
    cases earlier with
    | nil => exact ⟨rfl, (List.cons.inj split).1⟩
    | cons other earlier => simp at split
  rcases only with ⟨rfl, rfl⟩
  refine ⟨fun _ value isFirst => ?_, fun value isFirst => ?_⟩
  · cases isFirst
  · have isSerial : firstIdentifierValue Sample.edge.identifiers .serial =
        some "foc1" := by
      decide
    rw [isSerial] at isFirst
    cases isFirst
    decide

end NetworkManager.InventoryStore
