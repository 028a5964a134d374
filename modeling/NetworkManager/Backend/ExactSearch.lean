import NetworkManager.Backend.InventoryApi
import NetworkManager.InventoryStore.Patterns
import NetworkManager.InventoryStore.ScopeRows

/-!
# What a search finds

A search text is put into a pattern as it is, in lower case as far as ASCII goes.
The devices whose texts contain it are found, and no others, if every character
of it stands for itself and the database has the same lower case for it.
-/

namespace NetworkManager.Backend.InventoryApi

open NetworkManager.Foundation
open NetworkManager.Domain.Inventory
open NetworkManager.InventoryStore
open NetworkManager.Transaction

/-- The case map behind `lower` in a UTF-8 locale: one character at a time, like
ASCII on ASCII, and no further on what is in lower case. -/
structure CaseFolding where
  fold : Char → Char
  ascii : ∀ character : Char, character.toNat < 128 →
    fold character = character.toLower
  idempotent : ∀ character, fold (fold character) = fold character

namespace CaseFolding

variable (folding : CaseFolding)

def lower (text : String) : String :=
  String.ofList (text.toList.map folding.fold)

@[simp]
theorem toList_lower (text : String) :
    (folding.lower text).toList = text.toList.map folding.fold := by
  rw [lower, String.toList_ofList]

/-- `needle` is in `text`, apart from letter case. -/
def Contains (text needle : String) : Prop :=
  (folding.lower needle).toList <:+: (folding.lower text).toList

/-- What is read from a pattern in lower case is in lower case. -/
theorem fold_reading {folding : CaseFolding} {pattern : List Char}
    (unfolded : ∀ character ∈ pattern, folding.fold character = character) :
    ∀ character ∈ 'x' :: reading pattern, folding.fold character = character := by
  intro character member
  have origin : character = 'x' ∨ character = '%' ∨ character ∈ pattern := by
    rcases List.mem_cons.mp member with isX | isRead
    · exact Or.inl isX
    · exact mem_reading isRead
  rcases origin with isX | isPercent | inPattern
  · rw [isX]
    exact folding.ascii 'x' (by decide)
  · rw [isPercent]
    exact folding.ascii '%' (by decide)
  · exact unfolded character inPattern

end CaseFolding

/-- The foreign keys to devices. -/
structure ReferencesHold (db : ApiDb) : Prop where
  inventory : Constrained db.inventory
  interfaceDevice : ∀ interface ∈ db.network.interfaces,
    (db.inventory.deviceIn interface.scope interface.deviceId).isSome

/-- The text is in a name, the serial number, an identifier or an address of the
device, or its letters and digits are in an identifier without separators. -/
def Mentions (folding : CaseFolding) (db : ApiDb) (device : DeviceView)
    (text : String) : Prop :=
  (∃ column ∈ [device.displayName, device.hostname, device.serialNumber],
      ∃ value, column = some value ∧ folding.Contains value text) ∨
    (∃ identifier ∈ db.inventory.identifiers.rows,
      identifier.deviceId = device.id ∧
        (folding.Contains identifier.value text ∨
          alphanumeric text ≠ [] ∧ alphanumeric text <:+:
            lowerAlphanumeric identifier.identity.normalizedValue)) ∨
    ∃ interface ∈ db.network.interfaces, interface.deviceId = device.id ∧
      ∃ address ∈ db.network.addresses,
        address.interfaceId = some interface.id ∧
          folding.Contains address.host text

/-- The device is on one of the pages of a list. -/
def Listed (lower : String → String) (db : ApiDb) (scope : Scope)
    (query : InventoryQuery) (device : DeviceView) : Prop :=
  ∃ (page : Nat) (devices : List DeviceView),
    ((list lower scope
      { query with offset := page * query.limit }).call db).1 = .ok devices ∧
      device ∈ devices

/-- The pages of every list with this search text have the devices that mention
it, of those that the other filters let through. -/
def SearchExact (folding : CaseFolding) (search : String) : Prop :=
  ∀ (db : ApiDb) (scope : Scope) (query : InventoryQuery) (device : DeviceView),
    ReferencesHold db → query.validate = .ok () → query.search = some search →
    device ∈ db.inventory.devices.rows → device.scope = scope →
    (∀ lifecycle, query.lifecycle = some lifecycle →
      device.lifecycle = lifecycle) →
    (∀ deviceType, query.deviceType = some deviceType →
      device.deviceType = deviceType) →
    (Listed folding.lower db scope query device ↔
      Mentions folding db device (trim search))

/-- The pages of a list together are the list. -/
theorem exists_page_iff {α : Type} {rows : List α} {row : α} {limit : Nat}
    (positive : 0 < limit) :
    (∃ page, row ∈ (rows.drop (page * limit)).take limit) ↔ row ∈ rows := by
  constructor
  · intro onPage
    rcases onPage with ⟨page, member⟩
    exact List.mem_of_mem_drop (List.mem_of_mem_take member)
  · intro member
    rcases List.mem_iff_getElem?.mp member with ⟨index, isRow⟩
    have place : index / limit * limit + index % limit = index := by
      rw [Nat.mul_comm]
      exact Nat.div_add_mod index limit
    refine ⟨index / limit, List.mem_iff_getElem?.mpr ⟨index % limit, ?_⟩⟩
    rw [List.getElem?_take_of_lt (Nat.mod_lt index positive),
      List.getElem?_drop, place, isRow]

private theorem validate_eq_ok_iff {query : InventoryQuery} :
    query.validate = .ok () ↔
      (1 ≤ query.limit ∧ query.limit ≤ 200) ∧ 0 ≤ query.offset ∧
        ∀ search, query.search = some search → search.utf8ByteSize ≤ 256 := by
  rw [InventoryQuery.validate]
  by_cases paged : (1 ≤ query.limit ∧ query.limit ≤ 200) ∧ 0 ≤ query.offset
  · have passes : (!(decide (1 ≤ query.limit ∧ query.limit ≤ 200)) ||
        decide (query.offset < 0)) = false := by
      simpa using paged
    rw [passes]
    cases query.search with
    | none => simp [paged]
    | some search => by_cases short : search.utf8ByteSize ≤ 256 <;>
        simp [paged, short]
  · have fails : (!(decide (1 ≤ query.limit ∧ query.limit ≤ 200)) ||
        decide (query.offset < 0)) = true := by
      by_contra passes
      exact paged (by simpa using passes)
    rw [fails]
    simp only [if_true, reduceCtorEq, false_iff]
    intro holds
    exact paged ⟨holds.1, holds.2.1⟩

section Lists

variable {lower : String → String} {db : ApiDb} {scope : Scope}
  {query : InventoryQuery} {device : DeviceView}

private theorem call_list (valid : query.validate = .ok ()) :
    ((list lower scope query).call db).1 =
      .ok (execSelectDevices lower scope query db.inventory db.network) := by
  rw [list, valid]
  rfl

/-- A device of the scope is on some page if the search text matches. -/
theorem listed_iff (valid : query.validate = .ok ())
    (member : device ∈ db.inventory.devices.rows) (inScope : device.scope = scope)
    (lifecycle : ∀ lifecycle, query.lifecycle = some lifecycle →
      device.lifecycle = lifecycle)
    (deviceType : ∀ deviceType, query.deviceType = some deviceType →
      device.deviceType = deviceType) :
    Listed lower db scope query device ↔
      (query.searched.all fun search =>
        matchesSearch lower db.inventory db.network search device) = true := by
  rcases validate_eq_ok_iff.mp valid with ⟨limited, _, short⟩
  have pageValid (page : Nat) :
      { query with offset := page * query.limit }.validate = .ok () := by
    refine validate_eq_ok_iff.mpr ⟨limited, ?_, short⟩
    exact Int.mul_nonneg (Int.natCast_nonneg page) (by omega)
  have start (page : Nat) : ((page : Int) * query.limit).toNat =
      page * query.limit.toNat := by
    rw [Int.toNat_mul (Int.natCast_nonneg page) (by omega), Int.toNat_natCast]
  have onPage (page : Nat) : (∃ devices, ((list lower scope
        { query with offset := page * query.limit }).call db).1 = .ok devices ∧
          device ∈ devices) ↔
      device ∈ execSelectDevices lower scope
        { query with offset := page * query.limit } db.inventory db.network := by
    rw [call_list (pageValid page)]
    simp
  have passes : (query.lifecycle.all fun lifecycle =>
      decide (device.lifecycle = lifecycle)) = true ∧
      (query.deviceType.all fun deviceType =>
        decide (device.deviceType = deviceType)) = true := by
    constructor
    · cases given : query.lifecycle with
      | none => rfl
      | some state => exact decide_eq_true (lifecycle state given)
    · cases given : query.deviceType with
      | none => rfl
      | some type => exact decide_eq_true (deviceType type given)
  have positive : 0 < query.limit.toNat := by omega
  have searched (offset : Int) :
      { query with offset }.searched = query.searched := rfl
  simp only [Listed, onPage, execSelectDevices, start, searched,
    exists_page_iff positive, List.mem_insertionSort, List.mem_filter, inScope,
    passes, member, decide_true, Bool.true_and, true_and]

end Lists

private theorem isLiteral_toLower_iff {character : Char} :
    IsLiteral character.toLower ↔ IsLiteral character := by
  have codes : '%'.toNat = 37 ∧ '_'.toNat = 95 ∧ '\\'.toNat = 92 := by decide
  simp only [IsLiteral, ne_eq, ← Char.toNat_inj, toNat_toLower, codes]
  split_ifs <;> omega

/-- Every character of the text stands for itself in a pattern. -/
def Literal (text : String) : Prop :=
  ∀ character ∈ text.toList, IsLiteral character

private theorem Literal.toAsciiLowercase
    {text : String} (literal : Literal text) :
    ∀ character ∈ (Foundation.toAsciiLowercase text).toList,
      IsLiteral character := by
  intro character member
  rw [toList_toAsciiLowercase] at member
  rcases List.mem_map.mp member with ⟨given, isGiven, isLower⟩
  rw [← isLower]
  exact isLiteral_toLower_iff.mpr (literal given isGiven)

private theorem isLiteral_of_mem_alphanumeric {text : String} :
    ∀ character ∈ alphanumeric text, IsLiteral character := by
  intro character member
  rcases List.mem_map.mp member with ⟨given, isGiven, isLower⟩
  rw [← isLower]
  apply isLiteral_toLower_iff.mpr
  have kept := (List.mem_filter.mp isGiven).2
  refine ⟨?_, ?_, ?_⟩ <;>
    · intro isSpecial
      rw [isSpecial] at kept
      exact absurd kept (by decide)

section Texts

variable {folding : CaseFolding} {db : ApiDb} {device : DeviceView}
  {text value : String}

/-- With a literal text in the lower case of the database, the pattern finds
what contains the text. -/
theorem found_iff (literal : Literal text)
    (sameCase : folding.lower text = toAsciiLowercase text) :
    found folding.lower ('%' :: ((toAsciiLowercase text).toList ++ ['%']))
        value = true ↔ folding.Contains value text := by
  rw [found, like_contains_iff literal.toAsciiLowercase, CaseFolding.Contains,
    sameCase]

private theorem not_contains_empty (notEmpty : text.isEmpty = false) :
    ¬folding.Contains "" text := by
  intro contained
  rw [CaseFolding.Contains, CaseFolding.toList_lower,
    CaseFolding.toList_lower] at contained
  have isNil := List.map_eq_nil_iff.mp (List.infix_nil.mp contained)
  rw [String.toList_eq_nil_iff] at isNil
  rw [isNil] at notEmpty
  cases notEmpty

private theorem scope_of_isSome {scope : Scope}
    (member : device ∈ db.inventory.devices.rows)
    (there : (db.inventory.deviceIn scope device.id).isSome) :
    scope = device.scope := by
  have found : db.inventory.deviceIn device.scope device.id = some device :=
    deviceIn_eq_some_iff.mpr ⟨Table.lookup_of_mem member, rfl⟩
  exact scope_eq_of_deviceIn (Option.isSome_iff_exists.mpr ⟨device, found⟩) there

/-- The rows of a device are rows of its scope. -/
theorem matchesSearch_iff (references : ReferencesHold db)
    (member : device ∈ db.inventory.devices.rows) (lower : String → String)
    (text : String) :
    matchesSearch lower db.inventory db.network text device = true ↔
      let contains := '%' :: ((toAsciiLowercase text).toList ++ ['%'])
      (∃ column ∈ [device.displayName, device.hostname, device.serialNumber],
          found lower contains (column.getD "") = true) ∨
        (∃ identifier ∈ db.inventory.identifiers.rows,
          identifier.deviceId = device.id ∧
            (found lower contains identifier.value = true ∨
              alphanumeric text ≠ [] ∧
                like ('%' :: (alphanumeric text ++ ['%'])) (lowerAlphanumeric
                  identifier.identity.normalizedValue) = true)) ∨
        ∃ interface ∈ db.network.interfaces, interface.deviceId = device.id ∧
          ∃ address ∈ db.network.addresses,
            address.interfaceId = some interface.id ∧
              found lower contains address.host = true := by
  have identifiersIn : ∀ row ∈ db.inventory.identifiers.rows,
      row.deviceId = device.id → row.scope = device.scope := by
    intro row isRow ofDevice
    have there := references.inventory.identifierDevice row isRow
    rw [ofDevice] at there
    exact scope_of_isSome member there
  have interfacesIn : ∀ row ∈ db.network.interfaces,
      row.deviceId = device.id → row.scope = device.scope := by
    intro row isRow ofDevice
    have there := references.interfaceDevice row isRow
    rw [ofDevice] at there
    exact scope_of_isSome member there
  simp only [matchesSearch, Bool.or_eq_true, List.any_eq_true,
    Bool.and_eq_true, decide_eq_true_eq]
  rw [or_assoc]
  refine or_congr ?_ (or_congr ?_ ?_)
  · simp [or_assoc]
  · refine exists_congr fun row => and_congr_right fun isRow => and_congr ?_ ?_
    · exact ⟨And.left, fun ofDevice =>
        ⟨ofDevice, identifiersIn row isRow ofDevice⟩⟩
    · simp
  · refine exists_congr fun row => and_congr_right fun isRow =>
      and_congr_left' ?_
    exact ⟨And.left, fun ofDevice =>
      ⟨ofDevice, interfacesIn row isRow ofDevice⟩⟩

/-- A literal text in the lower case of the database is found where it is. -/
theorem matchesSearch_iff_mentions (references : ReferencesHold db)
    (member : device ∈ db.inventory.devices.rows)
    (notEmpty : text.isEmpty = false) (literal : Literal text)
    (sameCase : folding.lower text = toAsciiLowercase text) :
    matchesSearch folding.lower db.inventory db.network text device = true ↔
      Mentions folding db device text := by
  rw [matchesSearch_iff references member, Mentions]
  simp only [found_iff literal sameCase,
    like_contains_iff isLiteral_of_mem_alphanumeric]
  refine or_congr_left (exists_congr fun column => and_congr_right fun _ => ?_)
  constructor
  · intro contained
    cases column with
    | none => exact absurd contained (not_contains_empty notEmpty)
    | some value => exact ⟨value, rfl, contained⟩
  · intro contained
    rcases contained with ⟨value, isColumn, contained⟩
    rw [isColumn]
    exact contained

end Texts

/-! ## Searches that find too much or too little -/

/-- A device with a name and nothing else. -/
def deviceNamed (name : String) : DeviceView where
  id := ⟨1⟩
  organizationId := ⟨2⟩
  siteId := ⟨3⟩
  lifecycle := .managed
  deviceType := .switch
  displayName := some name
  hostname := none
  vendor := none
  model := none
  serialNumber := none
  osName := none
  osVersion := none
  firmwareVersion := none
  description := none
  operationalOwner := none
  capabilities := []
  version := 1
  lastSeenAt := none
  lastChangedAt := 0
  onboardedAt := none
  retiredAt := none
  retirementReason := none

/-- The state with only that device. -/
def onlyNamed (name : String) : ApiDb where
  authorization := ⟨.empty _, .empty _,
    ⟨.empty _, .empty _, .empty _, [], .empty _⟩⟩
  inventory := ⟨(Table.empty _).put (deviceNamed name), .empty _, .empty _, [],
    ⟨[]⟩, .empty⟩
  network := ⟨[], []⟩

private theorem referencesHold_onlyNamed (name : String) :
    ReferencesHold (onlyNamed name) where
  inventory :=
    { identifierDevice := fun _ member => nomatch member
      factDevice := fun _ member => nomatch member
      strongUnique := fun _ member => nomatch member }
  interfaceDevice _ member := nomatch member

section Failures

variable {folding : CaseFolding} {search : String}

/-- A search without other filters. -/
def searchFor (search : String) : InventoryQuery where
  search := some search
  lifecycle := none
  deviceType := none
  limit := 200
  offset := 0

/-- What an exact search for a text says about the names of devices. -/
theorem SearchExact.found_iff (searchExact : SearchExact folding search)
    (notBlank : (trim search).isEmpty = false)
    (short : search.utf8ByteSize ≤ 256) (name : String) :
    (∃ value ∈ [name, ""], found folding.lower
        ('%' :: ((toAsciiLowercase (trim search)).toList ++ ['%'])) value =
          true) ↔
      folding.Contains name (trim search) := by
  have limited : (1 : Int) ≤ 200 ∧ (200 : Int) ≤ 200 := by decide
  have valid : (searchFor search).validate = .ok () := by
    refine validate_eq_ok_iff.mpr ⟨limited, le_refl 0, ?_⟩
    intro given isGiven
    cases isGiven
    exact short
  have searched : (searchFor search).searched = some (trim search) := by
    simp [searchFor, InventoryQuery.searched, Option.filter, notBlank]
  have member := Table.mem_put_self (deviceNamed name)
    (Table.empty DeviceView.id)
  have isExact := searchExact (onlyNamed name) (deviceNamed name).scope _
    (deviceNamed name) (referencesHold_onlyNamed name) valid rfl member rfl
    nofun nofun
  rw [listed_iff valid member rfl nofun nofun, searched, Option.all_some,
    matchesSearch_iff (referencesHold_onlyNamed name) member] at isExact
  have noIdentifiers : (onlyNamed name).inventory.identifiers.rows = [] := rfl
  have noInterfaces : (onlyNamed name).network.interfaces = [] := rfl
  simpa [Mentions, noIdentifiers, noInterfaces, deviceNamed] using isExact

/-- A character that the database folds in another way stands in no text in
lower case. -/
theorem SearchExact.sameCase (searchExact : SearchExact folding search)
    (notBlank : (trim search).isEmpty = false)
    (short : search.utf8ByteSize ≤ 256) :
    folding.lower (trim search) = toAsciiLowercase (trim search) := by
  by_contra different
  have differs : ∃ character ∈ (trim search).toList,
      folding.fold character ≠ character.toLower := by
    by_contra same
    push Not at same
    apply different
    rw [CaseFolding.lower, toAsciiLowercase, List.map_congr_left same]
  rcases differs with ⟨character, member, differs⟩
  have beyond : 128 ≤ character.toNat := by
    by_contra ascii
    exact differs (folding.ascii character (by omega))
  have unfolded : character.toLower = character := by
    rw [← Char.toNat_inj, toNat_toLower]
    split_ifs <;> omega
  have literal : IsLiteral character := by
    refine ⟨?_, ?_, ?_⟩ <;>
      · intro isSpecial
        rw [isSpecial] at beyond
        exact absurd beyond (by decide)
  have inPattern : character ∈
      '%' :: ((toAsciiLowercase (trim search)).toList ++ ['%']) := by
    have isFolded : character ∈ (toAsciiLowercase (trim search)).toList := by
      rw [toList_toAsciiLowercase]
      exact List.mem_map.mpr ⟨character, member, unfolded⟩
    exact List.mem_cons_of_mem _ (List.mem_append_left _ isFolded)
  have contained : folding.Contains (trim search) (trim search) :=
    List.infix_refl _
  rcases (searchExact.found_iff notBlank short (trim search)).mpr contained with
    ⟨value, _, matched⟩
  have inValue := mem_of_like matched literal inPattern
  rw [CaseFolding.toList_lower] at inValue
  rcases List.mem_map.mp inValue with ⟨other, _, isOther⟩
  have stable := folding.idempotent other
  rw [isOther] at stable
  exact differs (stable.trans unfolded.symm)

/-- What a pattern matches need not contain the text that it was made of. -/
theorem SearchExact.literal (searchExact : SearchExact folding search)
    (notBlank : (trim search).isEmpty = false)
    (short : search.utf8ByteSize ≤ 256) : Literal (trim search) := by
  have sameCase := searchExact.sameCase notBlank short
  by_contra notLiteral
  rw [Literal] at notLiteral
  push Not at notLiteral
  rcases notLiteral with ⟨character, member, notLiteral⟩
  obtain ⟨pattern, isPattern⟩ : ∃ pattern,
      pattern = (toAsciiLowercase (trim search)).toList := ⟨_, rfl⟩
  have inPattern : ∃ character ∈ pattern, ¬IsLiteral character := by
    refine ⟨character.toLower, ?_, isLiteral_toLower_iff.not.mpr notLiteral⟩
    rw [isPattern, toList_toAsciiLowercase]
    exact List.mem_map_of_mem member
  have unfolded : ∀ character ∈ pattern, folding.fold character = character := by
    intro character inPattern
    rw [isPattern, ← sameCase, CaseFolding.toList_lower] at inPattern
    rcases List.mem_map.mp inPattern with ⟨given, _, isFolded⟩
    rw [← isFolded]
    exact folding.idempotent given
  have isText : (folding.lower (String.ofList ('x' :: reading pattern))).toList =
      'x' :: reading pattern := by
    rw [CaseFolding.toList_lower, String.toList_ofList,
      List.map_congr_left (CaseFolding.fold_reading unfolded), List.map_id']
  have matched : found folding.lower ('%' :: (pattern ++ ['%']))
      (String.ofList ('x' :: reading pattern)) = true := by
    rw [found, isText, like_percent_iff]
    exact ⟨reading pattern, List.suffix_cons .., like_reading pattern⟩
  rw [isPattern] at matched
  have contained := (searchExact.found_iff notBlank short _).mp
    ⟨_, List.mem_cons_self .., matched⟩
  rw [← isPattern, CaseFolding.Contains, isText, sameCase,
    ← isPattern] at contained
  exact not_infix_reading inPattern contained

/-- A search is exact just if every character of its text stands for itself in a
pattern, and the database has the lower case of ASCII for it.  That the database
takes no text with U+0000 as a parameter is left out. -/
theorem searchExact_iff (notBlank : (trim search).isEmpty = false)
    (short : search.utf8ByteSize ≤ 256) :
    SearchExact folding search ↔
      Literal (trim search) ∧
        folding.lower (trim search) = toAsciiLowercase (trim search) := by
  constructor
  · intro searchExact
    exact ⟨searchExact.literal notBlank short,
      searchExact.sameCase notBlank short⟩
  · intro plain
    rcases plain with ⟨literal, sameCase⟩
    intro db scope query device references valid isSearch member inScope
      lifecycle deviceType
    have searched : query.searched = some (trim search) := by
      simp [InventoryQuery.searched, isSearch, Option.filter, notBlank]
    rw [listed_iff valid member inScope lifecycle deviceType, searched,
      Option.all_some]
    exact matchesSearch_iff_mentions references member notBlank literal sameCase

end Failures

namespace Sample

def asciiFolding : CaseFolding where
  fold := Char.toLower
  ascii _ _ := rfl
  idempotent := toLower_toLower

end Sample

/-- The search for a part of a name is exact. -/
theorem searchExact_iff_coreA :
    SearchExact Sample.asciiFolding "CORE-A" ↔
      Literal (trim "CORE-A") ∧
        Sample.asciiFolding.lower (trim "CORE-A") =
          toAsciiLowercase (trim "CORE-A") :=
  searchExact_iff (by decide) (by decide)

/-- A device is not found by its own name, in which a character escapes the
next. -/
theorem not_searchExact_backslash :
    ¬Listed Sample.asciiFolding.lower (onlyNamed "rack\\1")
        (deviceNamed "rack\\1").scope (searchFor "rack\\1")
        (deviceNamed "rack\\1") ∧
      ¬SearchExact Sample.asciiFolding "rack\\1" := by
  have valid : (searchFor "rack\\1").validate = .ok () := by decide
  have member := Table.mem_put_self (deviceNamed "rack\\1")
    (Table.empty DeviceView.id)
  have notListed : ¬Listed Sample.asciiFolding.lower (onlyNamed "rack\\1")
      (deviceNamed "rack\\1").scope (searchFor "rack\\1")
      (deviceNamed "rack\\1") := by
    rw [listed_iff valid member rfl nofun nofun]
    decide
  refine ⟨notListed, fun searchExact => notListed ?_⟩
  refine (searchExact _ _ _ _ (referencesHold_onlyNamed _) valid rfl member rfl
    nofun nofun).mpr (Or.inl ⟨_, List.mem_cons_self .., _, rfl, ?_⟩)
  have trimmed : trim "rack\\1" = "rack\\1" := by decide
  rw [trimmed]
  exact List.infix_refl _

end NetworkManager.Backend.InventoryApi
