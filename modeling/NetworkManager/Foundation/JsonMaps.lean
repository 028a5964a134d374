import Mathlib.Data.String.Basic
import NetworkManager.Foundation.JsonReading

/-!
# Objects as maps

`serde_json` collects the members of an object into a map.  A value whose
objects are in the order of their keys is not changed by it; and masking a
value keeps that order, and keeps its numbers.
-/

namespace NetworkManager.Foundation.JsonText

/-- `BTreeMap::insert`. -/
def insertMember (key : String) (value : Value) :
    List (String × Value) → List (String × Value)
  | [] => [(key, value)]
  | (other, held) :: members =>
      if key < other then (key, value) :: (other, held) :: members
      else if key = other then (key, value) :: members
      else (other, held) :: insertMember key value members

mutual

/-- Collect the members of every object into a map. -/
def collect : Value → Value
  | .array values => .array (collectElements values)
  | .object members => .object (collectMembers [] members)
  | value => value

def collectElements : List Value → List Value
  | [] => []
  | value :: values => collect value :: collectElements values

def collectMembers (map : List (String × Value)) :
    List (String × Value) → List (String × Value)
  | [] => map
  | (key, value) :: members =>
      collectMembers (insertMember key (collect value) map) members

end

mutual

/-- The members of every object are in the order of a map. -/
def KeysAscend : Value → Prop
  | .array values => ElementsAscend values
  | .object members =>
      (members.map Prod.fst).Pairwise (· < ·) ∧ MembersAscend members
  | _ => True

def ElementsAscend : List Value → Prop
  | [] => True
  | value :: values => KeysAscend value ∧ ElementsAscend values

def MembersAscend : List (String × Value) → Prop
  | [] => True
  | (_, value) :: members => KeysAscend value ∧ MembersAscend members

end

theorem insertMember_last {key : String} {value : Value}
    {map : List (String × Value)} (isLast : ∀ member ∈ map, member.1 < key) :
    insertMember key value map = map ++ [(key, value)] := by
  induction map with
  | nil => rfl
  | cons member members inductionHypothesis =>
      obtain ⟨other, held⟩ := member
      have below : other < key := isLast _ (List.mem_cons_self ..)
      rw [insertMember, if_neg (lt_asymm below), if_neg (ne_of_gt below),
        inductionHypothesis fun later member =>
          isLast later (List.mem_cons_of_mem _ member)]
      rfl

mutual

/-- Collecting changes nothing where the members are in order already. -/
theorem collect_eq_self :
    ∀ value : Value, KeysAscend value → collect value = value
  | .array values, ascend => by
      rw [collect, collectElements_eq_self values ascend]
  | .object members, ascend => by
      rw [collect, collectMembers_eq_append members [] ascend.1 ascend.2,
        List.nil_append]
  | .null, _ => rfl
  | .bool _, _ => rfl
  | .number _, _ => rfl
  | .string _, _ => rfl

theorem collectElements_eq_self :
    ∀ values : List Value, ElementsAscend values →
      collectElements values = values
  | [], _ => rfl
  | value :: values, ascend => by
      rw [collectElements, collect_eq_self value ascend.1,
        collectElements_eq_self values ascend.2]

theorem collectMembers_eq_append :
    ∀ members map : List (String × Value),
      ((map ++ members).map Prod.fst).Pairwise (· < ·) →
      MembersAscend members → collectMembers map members = map ++ members
  | [], map, _, _ => by rw [collectMembers, List.append_nil]
  | (key, value) :: members, map, sorted, ascend => by
      have isLast : ∀ member ∈ map, member.1 < key := by
        intro member isMember
        rw [List.map_append, List.pairwise_append] at sorted
        exact sorted.2.2 _ (List.mem_map_of_mem isMember) _
          (List.mem_cons_self ..)
      have stillSorted : (((map ++ [(key, value)]) ++ members).map
          Prod.fst).Pairwise (· < ·) := by
        rwa [List.append_assoc, List.singleton_append]
      rw [collectMembers, collect_eq_self value ascend.1,
        insertMember_last isLast,
        collectMembers_eq_append members _ stillSorted ascend.2,
        List.append_assoc, List.singleton_append]

end

section Masking

variable {marker : String} {selected : String → Bool}

mutual

theorem numbersFit_maskKeys :
    ∀ value : Value, NumbersFit value →
      NumbersFit (value.maskKeys marker selected)
  | .array values, fits => elementsFit_maskList values fits
  | .object members, fits => membersFit_maskMembers members fits
  | .null, _ => trivial
  | .bool _, _ => trivial
  | .number _, fits => fits
  | .string _, _ => trivial

theorem elementsFit_maskList :
    ∀ values : List Value, ElementsFit values →
      ElementsFit (Value.maskList marker selected values)
  | [], _ => trivial
  | value :: values, fits =>
      ⟨numbersFit_maskKeys value fits.1, elementsFit_maskList values fits.2⟩

theorem membersFit_maskMembers :
    ∀ members : List (String × Value), MembersFit members →
      MembersFit (Value.maskMembers marker selected members)
  | [], _ => trivial
  | (key, value) :: members, fits => by
      refine ⟨?_, membersFit_maskMembers members fits.2⟩
      by_cases isSelected : selected key = true
      · rw [if_pos isSelected]
        trivial
      · rw [if_neg isSelected]
        exact numbersFit_maskKeys value fits.1

end

theorem keys_maskMembers (members : List (String × Value)) :
    (Value.maskMembers marker selected members).map Prod.fst =
      members.map Prod.fst := by
  rw [Value.maskMembers_eq_map, List.map_map]
  rfl

mutual

theorem keysAscend_maskKeys :
    ∀ value : Value, KeysAscend value →
      KeysAscend (value.maskKeys marker selected)
  | .array values, ascend => elementsAscend_maskList values ascend
  | .object members, ascend => by
      refine ⟨?_, membersAscend_maskMembers members ascend.2⟩
      rw [keys_maskMembers]
      exact ascend.1
  | .null, _ => trivial
  | .bool _, _ => trivial
  | .number _, _ => trivial
  | .string _, _ => trivial

theorem elementsAscend_maskList :
    ∀ values : List Value, ElementsAscend values →
      ElementsAscend (Value.maskList marker selected values)
  | [], _ => trivial
  | value :: values, ascend =>
      ⟨keysAscend_maskKeys value ascend.1,
        elementsAscend_maskList values ascend.2⟩

theorem membersAscend_maskMembers :
    ∀ members : List (String × Value), MembersAscend members →
      MembersAscend (Value.maskMembers marker selected members)
  | [], _ => trivial
  | (key, value) :: members, ascend => by
      refine ⟨?_, membersAscend_maskMembers members ascend.2⟩
      by_cases isSelected : selected key = true
      · rw [if_pos isSelected]
        trivial
      · rw [if_neg isSelected]
        exact keysAscend_maskKeys value ascend.1

end

end Masking

end NetworkManager.Foundation.JsonText
