import NetworkManager.InventoryStore.Types
import NetworkManager.Security.AuditCodec

/-!
# The JSON form of metadata patches

A patch is written with all its fields.  A text that is left alone and one that
is set to null are both written as `null`, and `null` is read as a text that is
left alone.

Which bodies are read at all is left open.  A decoder reads an object with plain
members one member after another, and it may read other forms: the elements of
an array, a type as an object, members of any kind under names it does not know.
-/

namespace NetworkManager.InventoryStore

open NetworkManager.Foundation
open NetworkManager.Foundation.JsonText
open NetworkManager.Domain.Inventory

/-- A text in two layers of `Option`. -/
def nestedTextValue : Option (Option String) → Value :=
  Security.optionalValue (Security.optionalValue .string)

def stringsValue (texts : List String) : Value := .array (texts.map .string)

namespace MetadataPatch

/-- The members of the object, under the names in camel case. -/
def members (patch : MetadataPatch) : List (String × Value) :=
  [("deviceType",
      Security.optionalValue (fun deviceType => .string deviceType.asStr)
        patch.deviceType),
    ("displayName", nestedTextValue patch.displayName),
    ("hostname", nestedTextValue patch.hostname),
    ("vendor", nestedTextValue patch.vendor),
    ("model", nestedTextValue patch.model),
    ("osName", nestedTextValue patch.osName),
    ("osVersion", nestedTextValue patch.osVersion),
    ("firmwareVersion", nestedTextValue patch.firmwareVersion),
    ("description", nestedTextValue patch.description),
    ("operationalOwner", nestedTextValue patch.operationalOwner),
    ("capabilities", Security.optionalValue stringsValue patch.capabilities)]

/-- `serde_json::to_vec` of a patch. -/
def toVec (patch : MetadataPatch) : Bytes :=
  utf8Bytes (String.ofList (write (.object patch.members)))

end MetadataPatch

def readDeviceType : Value → Option DeviceType
  | .string text =>
      [.switch, .router, .firewall, .server, .printer, .accessPoint,
        .unknown].find? fun deviceType => DeviceType.asStr deviceType = text
  | _ => none

/-- The inner layer of a text that is not `null`. -/
def readNestedText (value : Value) : Option (Option String) :=
  (Security.readText value).map some

def readTexts : Value → Option (List String)
  | .array values => values.mapM Security.readText
  | _ => none

/-- The patch that the members of an object give. -/
def MetadataPatch.ofMembers (members : List (String × Value)) :
    Option MetadataPatch := do
  let text (name : String) := Security.optionalField members name readNestedText
  let deviceType ← Security.optionalField members "deviceType" readDeviceType
  let displayName ← text "displayName"
  let hostname ← text "hostname"
  let vendor ← text "vendor"
  let model ← text "model"
  let osName ← text "osName"
  let osVersion ← text "osVersion"
  let firmwareVersion ← text "firmwareVersion"
  let description ← text "description"
  let operationalOwner ← text "operationalOwner"
  let capabilities ← Security.optionalField members "capabilities" readTexts
  return {
    deviceType, displayName, hostname, vendor, model, osName, osVersion,
    firmwareVersion, description, operationalOwner, capabilities }

/-- The members of the object that a body holds. -/
def readMembers (body : Bytes) : Option (List (String × Value)) := do
  let text ← fromUtf8 body
  match readDocument Security.recursionLimit text.toList with
  | some (.object members) => some members
  | _ => none

/-- Read a body that is an object with plain members. -/
def MetadataPatch.readObject (body : Bytes) : Option MetadataPatch :=
  (readMembers body).bind ofMembers

/-- The body of `update_device`. -/
structure UpdateDeviceRequest where
  expectedVersion : Int
  patch : MetadataPatch

/-- The patch is flattened: its members stand beside the version. -/
def UpdateDeviceRequest.ofMembers (members : List (String × Value)) :
    Option UpdateDeviceRequest := do
  let expectedVersion ← Security.requiredField members "expectedVersion"
    (Security.readInteger (-2 ^ 63) (2 ^ 63 - 1))
  let patch ← MetadataPatch.ofMembers members
  return { expectedVersion, patch }

def UpdateDeviceRequest.readObject (body : Bytes) :
    Option UpdateDeviceRequest :=
  (InventoryStore.readMembers body).bind ofMembers

/-! ## Reading back -/

/-- A text that was set to null is left alone. -/
def withoutNull (text : Option (Option String)) : Option (Option String) :=
  text.filter Option.isSome

private theorem withoutNull_eq_self_iff {text : Option (Option String)} :
    withoutNull text = text ↔ text ≠ some none := by
  rcases text with _ | _ | value <;> simp [withoutNull, Option.filter]

namespace MetadataPatch

/-- What is read back from a patch. -/
def withoutNulls (patch : MetadataPatch) : MetadataPatch :=
  { patch with
    displayName := withoutNull patch.displayName
    hostname := withoutNull patch.hostname
    vendor := withoutNull patch.vendor
    model := withoutNull patch.model
    osName := withoutNull patch.osName
    osVersion := withoutNull patch.osVersion
    firmwareVersion := withoutNull patch.firmwareVersion
    description := withoutNull patch.description
    operationalOwner := withoutNull patch.operationalOwner }

@[simp]
theorem text_withoutNulls (patch : MetadataPatch) (field : TextField) :
    patch.withoutNulls.text field = withoutNull (patch.text field) := by
  cases field <;> rfl

/-- Two patches with the same fields are the same. -/
theorem ext_text {left right : MetadataPatch}
    (deviceType : left.deviceType = right.deviceType)
    (texts : ∀ field, left.text field = right.text field)
    (capabilities : left.capabilities = right.capabilities) : left = right := by
  cases left
  cases right
  simp only [mk.injEq]
  exact ⟨deviceType, texts .displayName, texts .hostname, texts .vendor,
    texts .model, texts .osName, texts .osVersion, texts .firmwareVersion,
    texts .description, texts .operationalOwner, capabilities⟩

/-- A patch is read back as it was exactly if it sets no text to null. -/
theorem withoutNulls_eq_self_iff (patch : MetadataPatch) :
    patch.withoutNulls = patch ↔
      ∀ field, patch.text field ≠ some none := by
  constructor
  · intro same field
    have sameText := congrArg (fun other => text other field) same
    simp only [text_withoutNulls] at sameText
    exact withoutNull_eq_self_iff.mp sameText
  · intro noNull
    refine ext_text rfl (fun field => ?_) rfl
    rw [text_withoutNulls]
    exact withoutNull_eq_self_iff.mpr (noNull field)

end MetadataPatch

private theorem readDeviceType_asStr (deviceType : DeviceType) :
    readDeviceType (.string deviceType.asStr) = some deviceType := by
  cases deviceType <;> rfl

private theorem readTexts_stringsValue (texts : List String) :
    readTexts (stringsValue texts) = some texts := by
  rw [stringsValue, readTexts]
  induction texts with
  | nil => rfl
  | cons text texts inductionHypothesis =>
      rw [List.map_cons, List.mapM_cons, inductionHypothesis]
      rfl

section Fields

variable {members : List (String × Value)} {name : String}
  (distinct : (members.map Prod.fst).Nodup)
include distinct

/-- Of the two layers the outer one takes the `null`. -/
theorem optionalField_nestedText {text : Option (Option String)}
    (member : (name, nestedTextValue text) ∈ members) :
    Security.optionalField members name readNestedText =
      some (withoutNull text) := by
  have written : nestedTextValue text =
      Security.optionalValue (Security.optionalValue .string)
        (withoutNull text) := by
    rcases text with _ | _ | value <;> rfl
  rw [written] at member
  refine Security.optionalField_eq distinct member ?_
  intro value isValue
  rcases text with _ | _ | given
  · cases isValue
  · cases isValue
  · cases isValue
    exact ⟨Value.noConfusion, rfl⟩

end Fields

namespace MetadataPatch

private theorem nodup_names (patch : MetadataPatch) :
    (patch.members.map Prod.fst).Nodup := by
  simp only [members, List.map_cons, List.map_nil]
  decide

/-- The members of a patch are read wherever they stand. -/
theorem ofMembers_of_subset {patch : MetadataPatch}
    {given : List (String × Value)} (distinct : (given.map Prod.fst).Nodup)
    (subset : patch.members ⊆ given) :
    ofMembers given = some patch.withoutNulls := by
  have text (name : String) (field : Option (Option String))
      (member : (name, nestedTextValue field) ∈ patch.members) :
      Security.optionalField given name readNestedText =
        some (withoutNull field) :=
    optionalField_nestedText distinct (subset member)
  have deviceTypeMember : ("deviceType",
      Security.optionalValue (fun deviceType => .string deviceType.asStr)
        patch.deviceType) ∈ given :=
    subset (by simp [members])
  have deviceType : Security.optionalField given "deviceType" readDeviceType =
      some patch.deviceType :=
    Security.optionalField_eq distinct deviceTypeMember fun deviceType _ =>
      ⟨Value.noConfusion, readDeviceType_asStr deviceType⟩
  have capabilitiesMember : ("capabilities",
      Security.optionalValue stringsValue patch.capabilities) ∈ given :=
    subset (by simp [members])
  have capabilities : Security.optionalField given "capabilities" readTexts =
      some patch.capabilities :=
    Security.optionalField_eq distinct capabilitiesMember fun capabilities _ =>
      ⟨Value.noConfusion, readTexts_stringsValue capabilities⟩
  rw [ofMembers]
  simp only [deviceType, capabilities,
    text "displayName" patch.displayName (by simp [members]),
    text "hostname" patch.hostname (by simp [members]),
    text "vendor" patch.vendor (by simp [members]),
    text "model" patch.model (by simp [members]),
    text "osName" patch.osName (by simp [members]),
    text "osVersion" patch.osVersion (by simp [members]),
    text "firmwareVersion" patch.firmwareVersion (by simp [members]),
    text "description" patch.description (by simp [members]),
    text "operationalOwner" patch.operationalOwner (by simp [members])]
  rfl

private theorem numbersFit_nestedTextValue (text : Option (Option String)) :
    NumbersFit (nestedTextValue text) := by
  rcases text with _ | _ | value <;> trivial

private theorem elementsFit_strings (texts : List String) :
    ElementsFit (texts.map .string) := by
  induction texts with
  | nil => trivial
  | cons text texts inductionHypothesis => exact ⟨trivial, inductionHypothesis⟩

private theorem membersFit
    (patch : MetadataPatch) : MembersFit patch.members := by
  have capabilities : NumbersFit
      (Security.optionalValue stringsValue patch.capabilities) :=
    Security.numbersFit_optionalValue fun texts _ => elementsFit_strings texts
  have deviceType : NumbersFit
      (Security.optionalValue (fun deviceType => .string deviceType.asStr)
        patch.deviceType) :=
    Security.numbersFit_optionalValue fun _ _ => trivial
  have texts := numbersFit_nestedTextValue
  exact ⟨deviceType, texts _, texts _, texts _, texts _, texts _, texts _,
    texts _, texts _, texts _, capabilities, trivial⟩

private theorem nestingElements_strings (texts : List String) :
    nestingElements (texts.map .string) = 0 := by
  induction texts with
  | nil => rfl
  | cons text texts inductionHypothesis =>
      rw [List.map_cons, nestingElements, inductionHypothesis]
      rfl

/-- The capabilities are the only array in the object. -/
theorem nestingMembers_members (patch : MetadataPatch) :
    nestingMembers patch.members ≤ 1 := by
  have texts (text : Option (Option String)) :
      nesting (nestedTextValue text) = 0 := by
    rcases text with _ | _ | value <;> rfl
  have deviceType : nesting
      (Security.optionalValue (fun deviceType => .string deviceType.asStr)
        patch.deviceType) = 0 :=
    Security.nesting_optionalValue (fun _ => rfl) _
  have capabilities : nesting
      (Security.optionalValue stringsValue patch.capabilities) ≤ 1 := by
    cases patch.capabilities with
    | none => exact Nat.zero_le 1
    | some values =>
        rw [Security.optionalValue, stringsValue, nesting,
          nestingElements_strings]
  simp only [members, nestingMembers, texts, deviceType, Nat.max_zero,
    Nat.zero_max]
  exact capabilities

end MetadataPatch

/-- A body is read as the members that were written. -/
theorem readMembers_write {members : List (String × Value)}
    (fits : MembersFit members) (flat : nestingMembers members ≤ 1) :
    readMembers (utf8Bytes (String.ofList (write (.object members)))) =
      some members := by
  have decoded : fromUtf8 (utf8Bytes (String.ofList (write (.object members)))) =
      some (String.ofList (write (.object members))) :=
    fromUtf8_eq_some_iff.mpr rfl
  have shallow : nesting (.object members) < Security.recursionLimit := by
    rw [nesting, Security.recursionLimit]
    omega
  have read := @readDocument_write (.object members) Security.recursionLimit
    fits (by decide)
  rw [if_pos shallow] at read
  rw [readMembers, decoded]
  simp only [bind, Option.bind_some, String.toList_ofList, read]

private theorem MetadataPatch.readObject_toVec (patch : MetadataPatch) :
    readObject patch.toVec = some patch.withoutNulls := by
  rw [readObject, toVec,
    readMembers_write patch.membersFit patch.nestingMembers_members,
    Option.bind_some, ofMembers_of_subset patch.nodup_names (List.Subset.refl _)]

/-- A body for `update_device`: the version, and the patch as it is written. -/
def UpdateDeviceRequest.toVec (request : UpdateDeviceRequest) : Bytes :=
  utf8Bytes (String.ofList (write (.object
    (("expectedVersion", Security.integerValue request.expectedVersion) ::
      request.patch.members))))

/-- The wrapper reads the patch in the same way. -/
theorem UpdateDeviceRequest.readObject_toVec {request : UpdateDeviceRequest}
    (fits : -2 ^ 63 ≤ request.expectedVersion ∧
      request.expectedVersion ≤ 2 ^ 63 - 1) :
    readObject request.toVec =
      some { request with patch := request.patch.withoutNulls } := by
  have numbers : MembersFit
      (("expectedVersion", Security.integerValue request.expectedVersion) ::
        request.patch.members) := by
    refine ⟨?_, request.patch.membersFit⟩
    simp only [Security.integerValue, NumbersFit, NumberFits]
    omega
  have flat : nestingMembers
      (("expectedVersion", Security.integerValue request.expectedVersion) ::
        request.patch.members) ≤ 1 := by
    have patchFlat := request.patch.nestingMembers_members
    simpa [nestingMembers, Security.integerValue, nesting] using patchFlat
  have distinct : ((("expectedVersion",
      Security.integerValue request.expectedVersion) ::
        request.patch.members).map Prod.fst).Nodup := by
    simp only [MetadataPatch.members, List.map_cons, List.map_nil]
    decide
  have readVersion : Security.readInteger (-2 ^ 63) (2 ^ 63 - 1)
      (Security.integerValue request.expectedVersion) =
        some request.expectedVersion := by
    rw [Security.integerValue, Security.readInteger, if_pos fits]
  rw [readObject, toVec, readMembers_write numbers flat, Option.bind_some,
    ofMembers,
    Security.requiredField_eq distinct (List.mem_cons_self ..) readVersion,
    MetadataPatch.ofMembers_of_subset distinct (List.subset_cons_self _ _)]
  rfl

private theorem optionalField_readNestedText_ne
    {members : List (String × Value)}
    {name : String} {text : Option (Option String)}
    (isRead : Security.optionalField members name readNestedText =
      some text) : text ≠ some none := by
  intro isNull
  rw [isNull, Security.optionalField] at isRead
  split at isRead
  · cases isRead
  · cases isRead
  · rw [readNestedText] at isRead
    rcases Option.map_eq_some_iff.mp isRead with ⟨inner, isInner, isNone⟩
    rcases Option.map_eq_some_iff.mp isInner with ⟨value, _, isSome⟩
    rw [← isSome] at isNone
    cases isNone
  · cases isRead

/-- No text of a patch that has been read is set to null. -/
theorem MetadataPatch.text_ne_of_ofMembers {members : List (String × Value)}
    {patch : MetadataPatch} (isRead : ofMembers members = some patch)
    (field : TextField) : patch.text field ≠ some none := by
  obtain ⟨_, _, isRead⟩ := Option.bind_eq_some_iff.mp isRead
  obtain ⟨_, displayName, isRead⟩ := Option.bind_eq_some_iff.mp isRead
  obtain ⟨_, hostname, isRead⟩ := Option.bind_eq_some_iff.mp isRead
  obtain ⟨_, vendor, isRead⟩ := Option.bind_eq_some_iff.mp isRead
  obtain ⟨_, model, isRead⟩ := Option.bind_eq_some_iff.mp isRead
  obtain ⟨_, osName, isRead⟩ := Option.bind_eq_some_iff.mp isRead
  obtain ⟨_, osVersion, isRead⟩ := Option.bind_eq_some_iff.mp isRead
  obtain ⟨_, firmwareVersion, isRead⟩ := Option.bind_eq_some_iff.mp isRead
  obtain ⟨_, description, isRead⟩ := Option.bind_eq_some_iff.mp isRead
  obtain ⟨_, operationalOwner, isRead⟩ := Option.bind_eq_some_iff.mp isRead
  obtain ⟨_, _, isRead⟩ := Option.bind_eq_some_iff.mp isRead
  cases isRead
  cases field
  case displayName => exact optionalField_readNestedText_ne displayName
  case hostname => exact optionalField_readNestedText_ne hostname
  case vendor => exact optionalField_readNestedText_ne vendor
  case model => exact optionalField_readNestedText_ne model
  case osName => exact optionalField_readNestedText_ne osName
  case osVersion => exact optionalField_readNestedText_ne osVersion
  case firmwareVersion => exact optionalField_readNestedText_ne firmwareVersion
  case description => exact optionalField_readNestedText_ne description
  case operationalOwner =>
    exact optionalField_readNestedText_ne operationalOwner

private theorem UpdateDeviceRequest.text_ne_of_readObject {body : Bytes}
    {request : UpdateDeviceRequest} (isRead : readObject body = some request)
    (field : TextField) : request.patch.text field ≠ some none := by
  rcases Option.bind_eq_some_iff.mp isRead with ⟨members, _, isRequest⟩
  simp only [ofMembers, Option.bind_eq_bind, Option.bind_eq_some_iff,
    Option.pure_def, Option.some.injEq] at isRequest
  rcases isRequest with ⟨_, _, _, isPatch, rfl⟩
  exact MetadataPatch.text_ne_of_ofMembers isPatch field

/-- The decoder that is derived for both types, as far as its documentation
goes. -/
structure PatchDecoder where
  /-- `serde_json::from_slice` of a patch. -/
  patchFromSlice : Bytes → Option MetadataPatch
  /-- `Json` of the body of `update_device`. -/
  requestFromSlice : Bytes → Option UpdateDeviceRequest
  patch_readObject : ∀ {body patch},
    MetadataPatch.readObject body = some patch →
      patchFromSlice body = some patch
  request_readObject : ∀ {body request},
    UpdateDeviceRequest.readObject body = some request →
      requestFromSlice body = some request
  /-- A `null` ends at the outer of two layers, in whatever form it comes. -/
  text_ne : ∀ {body request}, requestFromSlice body = some request →
    ∀ field, request.patch.text field ≠ some none

namespace PatchDecoder

/-- The decoder that reads plain objects and nothing else. -/
def objects : PatchDecoder where
  patchFromSlice := MetadataPatch.readObject
  requestFromSlice := UpdateDeviceRequest.readObject
  patch_readObject := id
  request_readObject := id
  text_ne := UpdateDeviceRequest.text_ne_of_readObject

variable (decoder : PatchDecoder)

/-- What is read back from the form of a patch. -/
theorem patchFromSlice_toVec (patch : MetadataPatch) :
    decoder.patchFromSlice patch.toVec = some patch.withoutNulls :=
  decoder.patch_readObject patch.readObject_toVec

/-- The JSON form keeps a patch exactly if it sets no text to null. -/
theorem patchFromSlice_toVec_eq_some_iff (patch : MetadataPatch) :
    decoder.patchFromSlice patch.toVec = some patch ↔
      ∀ field, patch.text field ≠ some none := by
  rw [patchFromSlice_toVec, Option.some.injEq]
  exact patch.withoutNulls_eq_self_iff

end PatchDecoder

end NetworkManager.InventoryStore
