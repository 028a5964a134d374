import NetworkManager.InventoryStore.PatchCodec
import NetworkManager.InventoryStore.ManualValues
import NetworkManager.InventoryStore.RowValidity
import NetworkManager.InventoryStore.Versions

/-!
# Clearing a text by a patch

A patch that sets a text to null does not get through its JSON form.  A text
could be cleared by a blank instead: every column is written without the white
space around it, and as null if nothing else is left.  But the checks of a patch
let a blank through only in the description.
-/

namespace NetworkManager.InventoryStore

open NetworkManager.Foundation
open NetworkManager.Domain.Inventory
open NetworkManager.Transaction

/-- The text columns are as `clean_optional` leaves them. -/
def DeviceView.TextsClean (device : DeviceView) : Prop :=
  ∀ field, cleanOptional (device.text field) = device.text field

def TextsClean (db : InventoryDb) : Prop :=
  ∀ device ∈ db.devices.rows, device.TextsClean

private theorem text_metadataChange
    (context : MutationContext) (generated : Generated)
    (patch : MetadataPatch) (current : DeviceView) (field : TextField) :
    (metadataChange context generated patch current).device.text field =
      patchedTexts patch current field :=
  DeviceView.text_withTexts current (patchedTexts patch current) field

section Rows

variable {before after : InventoryDb} {call : InventoryCall} {row : DeviceView}

/-- Every operation writes clean columns. -/
theorem WritesRow.textsClean (writes : WritesRow before call row)
    (clean : TextsClean before) : row.TextsClean := by
  intro field
  cases writes with
  | manual absent => cases field <;> exact cleanOptional_cleanOptional _
  | @metadata context generated patch current found =>
      rw [text_metadataChange, patchedTexts, cleanOptional_cleanOptional]
  | @lifecycle context generated next reason current found =>
      have column : (lifecycleChange context generated next reason
          current).device.text field = current.text field := by
        cases field <;> rfl
      rw [column]
      exact clean current (Table.mem_of_lookup found) field
  | @observed context generated observation current declared found =>
      rw [text_observedChange]
      by_cases observes : ((cleanOptional (observation.text field)).isSome &&
          !declared (.text field)) = true
      · rw [if_pos observes, cleanOptional_cleanOptional]
      · rw [if_neg observes]
        exact clean current (Table.mem_of_lookup found) field
  | discovered absent =>
      cases field with
      | description => rfl
      | operationalOwner => rfl
      | _ => exact cleanOptional_cleanOptional _

private theorem Rewrites.textsClean (rewrites : Rewrites call before after)
    (clean : TextsClean before) : TextsClean after := by
  rcases rewrites with ⟨row, writes, puts⟩
  intro device member
  rw [puts] at member
  rcases Table.mem_put.mp member with isRow | ⟨old, _⟩
  · rw [isRow]
    exact writes.textsClean clean
  · exact clean device old

private theorem RowHistory.textsClean {library : InventoryLibrary}
    {commits : List (Commit (inventoryClient library))}
    (history : RowHistory before commits after) (clean : TextsClean before) :
    TextsClean after := by
  induction history with
  | nil => exact clean
  | cons earlier rewrites inductionHypothesis =>
      exact rewrites.textsClean inductionHypothesis

end Rows

/-- The columns stay clean whatever calls run at once. -/
theorem textsClean_of_reachable {library : InventoryLibrary}
    {system : System (inventoryClient library) deviceLocking}
    (reachable : System.Reachable TextsClean system) :
    TextsClean system.committed := by
  rcases recordHistory_of_reachable reachable with
    ⟨first, isClean, recordHistory⟩
  have history : RowHistory first system.commits system.committed :=
    recordHistory.mono fun _ => Revised.rewrites
  exact history.textsClean isClean

/-! ## Patches of texts only -/

/-- The texts that a valid patch sets are not blank, but for the
description. -/
theorem MetadataPatch.not_isBlank_of_validate {patch : MetadataPatch}
    (valid : patch.validate = .ok ()) {field : TextField} {value : String}
    (sets : patch.text field = some (some value))
    (other : field ≠ .description) : isBlank value = false := by
  unfold MetadataPatch.validate at valid
  rcases require_bind_eq_ok valid with ⟨texts, _⟩
  have named := validateTextFields_eq_ok (require_eq_ok_iff.mpr texts)
  have given : nestedRef (patch.text field) = some value := by
    rw [sets]
    rfl
  cases field with
  | description => exact absurd rfl other
  | _ => exact (named value (by simp_all [MetadataPatch.text])).1

/-- The patch with these texts, and with nothing else. -/
def MetadataPatch.ofTexts (texts : TextField → Option (Option String)) :
    MetadataPatch where
  deviceType := none
  displayName := texts .displayName
  hostname := texts .hostname
  vendor := texts .vendor
  model := texts .model
  osName := texts .osName
  osVersion := texts .osVersion
  firmwareVersion := texts .firmwareVersion
  description := texts .description
  operationalOwner := texts .operationalOwner
  capabilities := none

@[simp]
theorem MetadataPatch.text_ofTexts (texts : TextField → Option (Option String))
    (field : TextField) : (ofTexts texts).text field = texts field := by
  cases field <;> rfl

/-- The description is set to a blank, or nothing is set. -/
def clearing (field : TextField) : MetadataPatch :=
  .ofTexts fun other =>
    if other = .description ∧ field = .description then some (some "") else none

private theorem validate_clearing (field : TextField) :
    (clearing field).validate = .ok () := by
  cases field <;> decide

private theorem withoutNulls_clearing (field : TextField) :
    (clearing field).withoutNulls = clearing field := by
  rw [MetadataPatch.withoutNulls_eq_self_iff]
  intro other
  rw [clearing, MetadataPatch.text_ofTexts]
  split_ifs <;> simp

/-- The device with one text less, in its next version. -/
def DeviceView.cleared (device : DeviceView) (field : TextField)
    (now : Timestamp) : DeviceView :=
  { device.withTexts fun other =>
      if other = field then none else device.text other with
    version := device.version + 1
    lastChangedAt := now }

private theorem DeviceView.text_cleared
    (device : DeviceView) (field : TextField)
    (now : Timestamp) : (device.cleared field now).text field = none := by
  cases field <;> rfl

private theorem cleanOptional_empty : cleanOptional (some "") = none := by
  decide

private theorem device_metadataChange_clearing {context : MutationContext}
    {generated : Generated} {current : DeviceView} {field : TextField}
    (clean : current.TextsClean)
    (clearable : field = .description ∨ current.text field = none) :
    (metadataChange context generated (clearing field) current).device =
      current.cleared field generated.now := by
  have texts : patchedTexts (clearing field) current =
      fun other => if other = field then none else current.text other := by
    funext other
    rw [patchedTexts, clearing, MetadataPatch.text_ofTexts]
    by_cases isBoth : other = .description ∧ field = .description
    · rw [if_pos isBoth, if_pos (isBoth.1.trans isBoth.2.symm)]
      exact cleanOptional_empty
    · rw [if_neg isBoth, Option.getD_none, clean other]
      by_cases same : other = field
      · rw [if_pos same, same]
        rcases clearable with isDescription | isNull
        · exact absurd ⟨same.trans isDescription, isDescription⟩ isBoth
        · exact isNull
      · rw [if_neg same]
  rw [metadataChange, texts]
  rfl

section Calls

variable {decoder : PatchDecoder} {library : InventoryLibrary}
  {context : MutationContext} {generated : Generated} {db : InventoryDb}
  {current : DeviceView}

/-- The call that a body asks for ends with the device as it was, in its next
version and without this text. -/
def Clears (decoder : PatchDecoder) (library : InventoryLibrary)
    (context : MutationContext) (generated : Generated) (db : InventoryDb)
    (current : DeviceView) (field : TextField) (body : Bytes) : Prop :=
  ∃ request reached, decoder.requestFromSlice body = some request ∧
    (updateMetadata library context generated current.id
        request.expectedVersion request.patch).call db =
      (.ok (current.cleared field generated.now), reached) ∧
    reached.devices.lookup current.id =
      some (current.cleared field generated.now)

private theorem validate_of_updateMetadata
    {deviceId : Uuid} {expectedVersion : Int}
    {patch : MetadataPatch} {result : DeviceView}
    {committed : InventoryDb} {reached : Connection inventorySql}
    (ended : (updateMetadata library context generated deviceId
        expectedVersion patch).eval ⟨committed, db⟩ = (.ok result, reached)) :
    patch.validate = .ok () := by
  rw [updateMetadata] at ended
  rcases Program.eval_bind_eq_ok ended with ⟨_, _, checked, ended⟩
  rw [(Program.eval_ofExcept_eq_ok checked).2] at ended
  rcases Program.eval_bind_eq_ok ended with ⟨_, _, checked, _⟩
  exact (Program.eval_ofExcept_eq_ok checked).1

private theorem deviceIn_metadataChange {patch : MetadataPatch}
    (found : db.deviceIn context.scope current.id = some current) :
    ((metadataChange context generated patch current).apply db).deviceIn
        context.scope current.id =
      some (metadataChange context generated patch current).device := by
  have sameScope : (metadataChange context generated patch
      current).device.scope = context.scope :=
    (deviceIn_eq_some_iff.mp found).2
  rw [← sameScope]
  exact deviceIn_apply (metadataChange context generated patch current) db

/-- What a call that ends has written. -/
theorem device_of_updateMetadata {expectedVersion : Int}
    {patch : MetadataPatch} {result : DeviceView} {reached : InventoryDb}
    (found : db.deviceIn context.scope current.id = some current)
    (ended : (updateMetadata library context generated current.id
        expectedVersion patch).call db = (.ok result, reached)) :
    patch.validate = .ok () ∧
      result = (metadataChange context generated patch current).device := by
  rcases Program.call_eq_ok ended with ⟨final, evaluated, rfl⟩
  refine ⟨validate_of_updateMetadata evaluated, ?_⟩
  rcases eval_updateMetadata_eq_ok evaluated with
    ⟨stored, isStored, _, _, finished⟩
  rw [found] at isStored
  cases isStored
  exact (eval_finishMutation_eq_ok (deviceIn_metadataChange found) finished).1

/-- A valid patch of a device that may be changed is written. -/
theorem updateMetadata_available {patch : MetadataPatch}
    (available : Available library context generated db)
    (contextValid : context.validate = .ok ())
    (patchValid : patch.validate = .ok ())
    (found : db.deviceIn context.scope current.id = some current)
    (allowed : current.lifecycle.allowsNormalMutation = true) :
    ∃ reached, (updateMetadata library context generated current.id
        current.version patch).call db =
          (.ok (metadataChange context generated patch current).device,
            reached) ∧
      reached.devices.lookup current.id =
        some (metadataChange context generated patch current).device := by
  have named : isBlank "inventory.device.update" = false := by decide
  have eventNamed : isBlank "inventory.device.updated" = false := by
    decide
  have foundAfter : ((metadataChange context generated patch current).apply
      db).deviceIn context.scope current.id =
        some (metadataChange context generated patch current).device :=
    deviceIn_metadataChange found
  have sameAudit : ((metadataChange context generated patch current).apply
      db).audit = db.audit := rfl
  have sameOutbox : ((metadataChange context generated patch current).apply
      db).outbox = db.outbox := rfl
  have ends (before : Option DeviceView) := @eval_finishMutation_available _ _ _
    _ _ _ _ _ before _ available contextValid named (by decide)
    eventNamed sameAudit sameOutbox foundAfter
  rcases ends (some current) with ⟨final, finished⟩
  rcases eval_finishMutation_eq_ok foundAfter finished with
    ⟨_, auditRow, outboxRow, _, _, _, isFinal⟩
  have evaluated : (updateMetadata library context generated current.id
      current.version patch).eval (.fresh db) =
        (.ok (metadataChange context generated patch current).device,
          final) := by
    rw [Connection.fresh, eval_updateMetadata contextValid patchValid found
      allowed]
    exact finished
  refine ⟨final.committed, Program.call_of_eval evaluated, ?_⟩
  rw [isFinal]
  exact (deviceIn_eq_some_iff.mp foundAfter).1

/-- Only the description can be cleared, by a blank. -/
theorem clears_iff (clean : current.TextsClean)
    (available : Available library context generated db)
    (contextValid : context.validate = .ok ())
    (found : db.deviceIn context.scope current.id = some current)
    (allowed : current.lifecycle.allowsNormalMutation = true)
    (bigint : -2 ^ 63 ≤ current.version ∧ current.version ≤ 2 ^ 63 - 1)
    (field : TextField) :
    (∃ body, Clears decoder library context generated db current field body) ↔
      field = .description ∨ current.text field = none := by
  constructor
  · rintro ⟨body, request, reached, isRequest, ended, _⟩
    rcases device_of_updateMetadata found ended with ⟨valid, isWritten⟩
    have column : cleanOptional ((request.patch.text field).getD
        (current.text field)) = none := by
      have isText := congrArg (fun device => DeviceView.text device field)
        isWritten
      have cleared : (current.cleared field generated.now).text field = none :=
        DeviceView.text_cleared current field generated.now
      exact (text_metadataChange context generated request.patch current
        field).symm.trans (isText.symm.trans cleared)
    by_cases isDescription : field = .description
    · exact Or.inl isDescription
    · right
      have notNull := decoder.text_ne isRequest field
      rcases sets : request.patch.text field with _ | _ | value
      · rw [sets, Option.getD_none, clean field] at column
        exact column
      · exact absurd sets notNull
      · have notBlank := MetadataPatch.not_isBlank_of_validate valid sets
          isDescription
        rw [sets, Option.getD_some, cleanOptional, Option.bind_some,
          ← isBlank, notBlank] at column
        cases column
  · intro clearable
    let request : UpdateDeviceRequest := ⟨current.version, clearing field⟩
    have isRead : UpdateDeviceRequest.readObject request.toVec =
        some request := by
      rw [UpdateDeviceRequest.readObject_toVec bigint, withoutNulls_clearing]
    have isRequest := decoder.request_readObject isRead
    rcases updateMetadata_available available contextValid
      (validate_clearing field) found allowed with ⟨reached, ended, stored⟩
    rw [device_metadataChange_clearing clean clearable] at ended stored
    exact ⟨request.toVec, request, reached, isRequest, ended, stored⟩

end Calls

section EmptyTrail

open NetworkManager.AuditStore

variable {library : Security.AuditLibrary} {db : AuditDb}
  {draft : Security.AuditEventDraft}

private theorem durationColumn_nonneg (duration : Nat) :
    0 ≤ durationColumn duration := by
  rw [durationColumn, maxBigint]
  omega

/-- An empty audit trail takes every valid event. -/
theorem eval_appendInTx_empty (encodes : ∀ draft, (library.toVec draft).isSome)
    (isEmpty : db.rows = []) (auditId : Uuid)
    (valid : validateDraft draft = .ok ()) :
    ∃ final, (appendInTx library auditId draft).eval (.fresh db) =
      (.ok auditId, final) := by
  rcases Option.isSome_iff_exists.mp (encodes draft.sanitize) with
    ⟨payload, encoded⟩
  let sealedEvent : Security.SealedAuditEvent :=
    ⟨draft.sanitize, none, Security.hashEvent library payload none⟩
  have selected : auditSql.exec (.selectChainHead draft.organizationId) db =
      .ok (none, []) := by
    simp [auditSql, AuditDb.chain, isEmpty]
  have isSealed : sealDraft library draft none = .ok sealedEvent := by
    rw [sealDraft,
      Security.AuditEventDraft.seal_eq_ok_iff.mpr ⟨payload, encoded, rfl⟩]
    rfl
  have isEncoded : AuditStore.toVec library sealedEvent.event = .ok payload := by
    rw [AuditStore.toVec, encoded]
  have inserted : auditSql.exec
      (.insertEvent (sealedRow auditId 1 payload sealedEvent)) db =
        .ok ((), [sealedRow auditId 1 payload sealedEvent]) := by
    have duration : (Option.map durationColumn draft.sanitize.durationMs).any
        (fun duration => decide (duration < 0)) = false := by
      cases draft.sanitize.durationMs with
      | none => rfl
      | some given =>
          exact decide_eq_false (Int.not_lt.mpr (durationColumn_nonneg given))
    have size := (Security.hashEvent library payload none).sized
    simp [auditSql, execInsertEvent, isEmpty, sealedRow, sealedEvent, duration,
      size]
  refine ⟨⟨db, auditSql.applyAll [sealedRow auditId 1 payload sealedEvent] db⟩,
    ?_⟩
  rw [appendInTx, valid]
  refine (Program.eval_statement_bind_ok rfl).trans ?_
  refine (Program.eval_statement_bind_ok selected).trans ?_
  -- the first position of a chain is fixed, and so is what is sealed there
  change Program.eval (Program.ofExcept (sealDraft library draft none) >>= _)
    _ = _
  rw [isSealed]
  change Program.eval
    (Program.ofExcept (AuditStore.toVec library sealedEvent.event) >>= _) _ = _
  rw [isEncoded]
  exact Program.eval_statement_bind_ok inserted

end EmptyTrail

namespace Sample

/-- A managed device, and the state in which there is only this device. -/
def named : DeviceView :=
  { discovered first strong with lifecycle := .managed }

def namedOnly : InventoryDb :=
  { start with devices := (Table.empty _).put named }

private theorem named_textsClean : named.TextsClean := by
  intro field
  cases field <;> decide

private theorem namedOnly_available
    : Available library context second namedOnly where
  deviceId := by decide
  outboxId := by decide
  unixMs := by decide
  audit := fun _ valid _ =>
    eval_appendInTx_empty (fun _ => rfl) rfl second.auditId valid

private theorem reachable_namedOnly : System.Reachable TextsClean
    (System.initial (inventoryClient library) deviceLocking namedOnly) := by
  refine .initial ?_
  intro device member
  rcases Table.mem_put.mp member with isNamed | ⟨old, _⟩
  · rw [isNamed]
    exact named_textsClean
  · cases old

/-- The name set to null. -/
def unnaming : MetadataPatch :=
  .ofTexts fun field => if field = .displayName then some none else none

end Sample

/-- The JSON form keeps a patch exactly if it sets no text to null.  So a text
that a device has can be cleared if it is the description, and not
otherwise. -/
theorem wireFormat_iff (decoder : PatchDecoder) {library : InventoryLibrary}
    {system : System (inventoryClient library) deviceLocking}
    {context : MutationContext} {generated : Generated} {current : DeviceView}
    (reachable : System.Reachable TextsClean system)
    (contextValid : context.validate = .ok ())
    (available : Available library context generated system.committed)
    (found : system.committed.deviceIn context.scope current.id = some current)
    (allowed : current.lifecycle.allowsNormalMutation = true)
    (bigint : -2 ^ 63 ≤ current.version ∧ current.version ≤ 2 ^ 63 - 1) :
    (∀ patch : MetadataPatch,
        decoder.patchFromSlice patch.toVec = some patch ↔
          ∀ field, patch.text field ≠ some none) ∧
      ∀ field, (∃ body, Clears decoder library context generated
          system.committed current field body) ↔
        field = .description ∨ current.text field = none := by
  refine ⟨decoder.patchFromSlice_toVec_eq_some_iff, ?_⟩
  have stored := (deviceIn_eq_some_iff.mp found).1
  have clean := textsClean_of_reachable reachable current
    (Table.mem_of_lookup stored)
  exact clears_iff clean available contextValid found allowed bigint

/-- The name of a device cannot be cleared, and its description, which is not
there, can be left so. -/
theorem wireFormat_iff_namedOnly :
    (PatchDecoder.objects.patchFromSlice Sample.unnaming.toVec =
          some Sample.unnaming ↔
        ∀ field, Sample.unnaming.text field ≠ some none) ∧
      ((∃ body, Clears .objects Sample.library Sample.context Sample.second
          Sample.namedOnly Sample.named .displayName body) ↔
        TextField.displayName = .description ∨
          Sample.named.text .displayName = none) := by
  have settled := @wireFormat_iff .objects _ _ _ _ Sample.named
    Sample.reachable_namedOnly (by decide) Sample.namedOnly_available
    (by decide) (by decide) (by decide)
  exact ⟨settled.1 Sample.unnaming, settled.2 .displayName⟩

/-- Under no decoder is a name that is set to null read back, or cleared by some
body. -/
theorem not_wireFormat : ¬∃ decoder : PatchDecoder,
    decoder.patchFromSlice Sample.unnaming.toVec = some Sample.unnaming ∨
      ∃ body, Clears decoder Sample.library Sample.context Sample.second
        Sample.namedOnly Sample.named .displayName body := by
  rintro ⟨decoder, readBack | cleared⟩
  · rw [decoder.patchFromSlice_toVec_eq_some_iff] at readBack
    exact readBack .displayName rfl
  · rw [clears_iff Sample.named_textsClean Sample.namedOnly_available
      (by decide) (by decide) (by decide) (by decide)] at cleared
    revert cleared
    decide

end NetworkManager.InventoryStore
