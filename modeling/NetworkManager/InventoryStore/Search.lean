import Mathlib.Data.List.Sort
import NetworkManager.InventoryStore.Store

/-!
# Lists of devices

`list` filters the devices of a scope, puts the last changed first, and gives a
page of them.  A search text is looked for in some columns of the device, in its
identifiers and in the addresses of its interfaces.
-/

namespace NetworkManager.InventoryStore

open NetworkManager.Foundation
open NetworkManager.Domain.Inventory
open NetworkManager.Transaction

/-- `text LIKE pattern`, where `\` escapes the character after it. -/
def like : (pattern text : List Char) → Bool
  | [], text => text.isEmpty
  | '%' :: pattern, text => text.tails.any fun suffix => like pattern suffix
  | '_' :: pattern, text =>
      match text with
      | [] => false
      | _ :: rest => like pattern rest
  | '\\' :: escaped :: pattern, text =>
      match text with
      | [] => false
      | first :: rest => first == escaped && like pattern rest
  | character :: pattern, text =>
      match text with
      | [] => false
      | first :: rest => first == character && like pattern rest

example : like "%b_d%".toList "abcde".toList = true := by decide

example : like "%a\\%".toList "ba%".toList = true := by decide

structure InterfaceRow where
  id : Uuid
  scope : Scope
  deviceId : Uuid
deriving DecidableEq, Repr

/-- An address, as the text that `host` makes of it. -/
structure AddressRow where
  interfaceId : Option Uuid
  host : String
deriving DecidableEq, Repr

/-- The tables of interfaces and their addresses, which this store reads. -/
structure NetworkDb where
  interfaces : List InterfaceRow
  addresses : List AddressRow

structure InventoryQuery where
  search : Option String
  lifecycle : Option DeviceLifecycle
  deviceType : Option DeviceType
  limit : Int
  offset : Int
deriving DecidableEq, Repr

def InventoryQuery.validate (query : InventoryQuery) :
    Except InventoryError Unit :=
  if !(decide (1 ≤ query.limit ∧ query.limit ≤ 200)) ||
      decide (query.offset < 0) then
    .error (.invalidInput "pagination is invalid")
  else if query.search.any fun value => decide (256 < value.utf8ByteSize) then
    .error (.invalidInput "search is too long")
  else
    .ok ()

/-- The ASCII letters and digits of a text, in lower case. -/
def alphanumeric (text : String) : List Char :=
  (text.toList.filter Char.isAlphanum).map Char.toLower

/-- What is left of a normalized value by
`regexp_replace(value, '[^a-z0-9]', '', 'g')`. -/
def lowerAlphanumeric (text : String) : List Char :=
  text.toList.filter fun character => character.isLower || character.isDigit

section Search

/-- `lower(text) LIKE pattern`, with the `lower` of the database. -/
def found (lower : String → String) (pattern : List Char) (text : String) :
    Bool :=
  like pattern (lower text).toList

variable (lower : String → String)

/-- The condition that a search text adds to the query. -/
def matchesSearch (db : InventoryDb) (network : NetworkDb) (search : String)
    (device : DeviceView) : Bool :=
  let contains := '%' :: ((toAsciiLowercase search).toList ++ ['%'])
  let normalized := alphanumeric search
  found lower contains (device.displayName.getD "") ||
    found lower contains (device.hostname.getD "") ||
    found lower contains (device.serialNumber.getD "") ||
    (db.identifiers.rows.any fun identifier =>
      decide (identifier.deviceId = device.id) &&
        decide (identifier.scope = device.scope) &&
        (found lower contains identifier.value ||
          (!normalized.isEmpty &&
            like ('%' :: (normalized ++ ['%']))
              (lowerAlphanumeric identifier.identity.normalizedValue)))) ||
    network.interfaces.any fun interface =>
      decide (interface.deviceId = device.id) &&
        decide (interface.scope = device.scope) &&
        network.addresses.any fun address =>
          decide (address.interfaceId = some interface.id) &&
            found lower contains address.host

/-- `ORDER BY d.last_changed_at DESC, d.id DESC`. -/
def changedAfter (left right : DeviceView) : Prop :=
  right.lastChangedAt < left.lastChangedAt ∨
    right.lastChangedAt = left.lastChangedAt ∧ right.id ≤ left.id

instance : DecidableRel changedAfter := fun left right =>
  inferInstanceAs (Decidable (right.lastChangedAt < left.lastChangedAt ∨
    right.lastChangedAt = left.lastChangedAt ∧ right.id ≤ left.id))

/-- The search text, if there is something to look for. -/
def InventoryQuery.searched (query : InventoryQuery) : Option String :=
  (query.search.map trim).filter fun value => !value.isEmpty

def execSelectDevices (scope : Scope) (query : InventoryQuery)
    (db : InventoryDb) (network : NetworkDb) : List DeviceView :=
  let selected := db.devices.rows.filter fun device =>
    decide (device.scope = scope) &&
      (query.lifecycle.all fun lifecycle =>
        decide (device.lifecycle = lifecycle)) &&
      (query.deviceType.all fun deviceType =>
        decide (device.deviceType = deviceType)) &&
      query.searched.all fun search =>
        matchesSearch lower db network search device
  ((selected.insertionSort changedAfter).drop query.offset.toNat).take
    query.limit.toNat

variable {lower : String → String}

/-- A listed device is one of the scope. -/
theorem mem_execSelectDevices {scope : Scope} {query : InventoryQuery}
    {db : InventoryDb} {network : NetworkDb} {device : DeviceView}
    (member : device ∈ execSelectDevices lower scope query db network) :
    device ∈ db.devices.rows ∧ device.scope = scope := by
  have listed := List.mem_of_mem_drop (List.mem_of_mem_take member)
  rw [List.mem_insertionSort, List.mem_filter] at listed
  simp only [Bool.and_eq_true, decide_eq_true_eq] at listed
  exact ⟨listed.1, listed.2.1.1.1⟩

end Search

end NetworkManager.InventoryStore
