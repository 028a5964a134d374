import Mathlib.Data.List.Basic

/-!
# JSON values

A number is an integer or the bits of a double; nothing here computes with the
latter.  An object is the list of its members in the order in which they are
written.

A masker replaces what stands under the selected keys by a fixed string and
goes through everything else.  The main result, `hasLeaf_maskKeys_iff`, says
which leaves it leaves in place: those with no selected key on their path.
-/

namespace NetworkManager.Foundation

inductive Number where
  | integer (value : Int)
  | float (bits : UInt64)
deriving DecidableEq, Repr

inductive Value where
  | null
  | bool (value : Bool)
  | number (value : Number)
  | string (value : String)
  | array (values : List Value)
  | object (members : List (String × Value))
deriving Repr

namespace Value

mutual

def same : Value → Value → Bool
  | .null, .null => true
  | .bool left, .bool right => left == right
  | .number left, .number right => decide (left = right)
  | .string left, .string right => left == right
  | .array left, .array right => sameList left right
  | .object left, .object right => sameMembers left right
  | _, _ => false

def sameList : List Value → List Value → Bool
  | [], [] => true
  | left :: lefts, right :: rights => same left right && sameList lefts rights
  | _, _ => false

def sameMembers : List (String × Value) → List (String × Value) → Bool
  | [], [] => true
  | (leftKey, left) :: lefts, (rightKey, right) :: rights =>
      leftKey == rightKey && same left right && sameMembers lefts rights
  | _, _ => false

end

mutual

theorem same_iff : ∀ left right : Value, same left right = true ↔ left = right
  | .null, right => by cases right <;> simp [same]
  | .bool _, right => by cases right <;> simp [same]
  | .number _, right => by cases right <;> simp [same]
  | .string _, right => by cases right <;> simp [same]
  | .array lefts, right => by
      cases right with
      | array rights => simp [same, sameList_iff lefts rights]
      | _ => simp [same]
  | .object lefts, right => by
      cases right with
      | object rights => simp [same, sameMembers_iff lefts rights]
      | _ => simp [same]

theorem sameList_iff :
    ∀ lefts rights : List Value, sameList lefts rights = true ↔ lefts = rights
  | [], rights => by cases rights <;> simp [sameList]
  | left :: lefts, rights => by
      cases rights with
      | nil => simp [sameList]
      | cons right rights =>
          simp [sameList, same_iff left right, sameList_iff lefts rights]

theorem sameMembers_iff :
    ∀ lefts rights : List (String × Value),
      sameMembers lefts rights = true ↔ lefts = rights
  | [], rights => by cases rights <;> simp [sameMembers]
  | (key, left) :: lefts, rights => by
      cases rights with
      | nil => simp [sameMembers]
      | cons right rights =>
          obtain ⟨rightKey, right⟩ := right
          simp [sameMembers, same_iff left right,
            sameMembers_iff lefts rights, and_assoc]

end

instance : DecidableEq Value := fun left right =>
  decidable_of_iff _ (same_iff left right)

mutual

/-- Replace the value of every member whose key is selected, at any depth. -/
def maskKeys (marker : String) (selected : String → Bool) : Value → Value
  | .array values => .array (maskList marker selected values)
  | .object members => .object (maskMembers marker selected members)
  | scalar => scalar

def maskList (marker : String) (selected : String → Bool) :
    List Value → List Value
  | [] => []
  | value :: rest =>
      maskKeys marker selected value :: maskList marker selected rest

def maskMembers (marker : String) (selected : String → Bool) :
    List (String × Value) → List (String × Value)
  | [] => []
  | (key, value) :: rest =>
      (key,
        if selected key then .string marker
        else maskKeys marker selected value) ::
        maskMembers marker selected rest

end

section Masking

variable {marker : String} {selected : String → Bool}

theorem maskList_eq_map (values : List Value) :
    maskList marker selected values =
      values.map (maskKeys marker selected) := by
  induction values with
  | nil => rfl
  | cons value rest inductionHypothesis =>
      rw [maskList, inductionHypothesis, List.map_cons]

theorem maskMembers_eq_map (members : List (String × Value)) :
    maskMembers marker selected members =
      members.map fun member =>
        (member.1,
          if selected member.1 then .string marker
          else maskKeys marker selected member.2) := by
  induction members with
  | nil => rfl
  | cons member rest inductionHypothesis =>
      obtain ⟨key, value⟩ := member
      rw [maskMembers, inductionHypothesis, List.map_cons]

mutual

theorem maskKeys_maskKeys :
    ∀ value : Value,
      maskKeys marker selected (maskKeys marker selected value) =
        maskKeys marker selected value
  | .array values => by
      simp only [maskKeys, maskList_maskList values]
  | .object members => by
      simp only [maskKeys, maskMembers_maskMembers members]
  | .null => rfl
  | .bool _ => rfl
  | .number _ => rfl
  | .string _ => rfl

theorem maskList_maskList :
    ∀ values : List Value,
      maskList marker selected (maskList marker selected values) =
        maskList marker selected values
  | [] => rfl
  | value :: rest => by
      simp only [maskList, maskKeys_maskKeys value, maskList_maskList rest]

theorem maskMembers_maskMembers :
    ∀ members : List (String × Value),
      maskMembers marker selected (maskMembers marker selected members) =
        maskMembers marker selected members
  | [] => rfl
  | (key, value) :: rest => by
      by_cases isSelected : selected key = true
      · simp only [maskMembers, isSelected, if_true,
          maskMembers_maskMembers rest]
      · simp only [maskMembers, isSelected, if_false, Bool.false_eq_true,
          maskKeys_maskKeys value, maskMembers_maskMembers rest]

end

end Masking

/-- One step from a value into one of its parts. -/
inductive PathStep where
  | key (name : String)
  | index (position : Nat)
deriving DecidableEq, Repr

def isScalar : Value → Bool
  | .array _ => false
  | .object _ => false
  | _ => true

/-- `leaf` is the scalar that a path leads to. -/
inductive HasLeaf : Value → List PathStep → Value → Prop
  | scalar {value : Value} : value.isScalar = true → HasLeaf value [] value
  | element {values : List Value} {position : Nat} {value leaf : Value}
      {path : List PathStep} :
      values[position]? = some value → HasLeaf value path leaf →
      HasLeaf (.array values) (.index position :: path) leaf
  | member {members : List (String × Value)} {key : String}
      {value leaf : Value} {path : List PathStep} :
      (key, value) ∈ members → HasLeaf value path leaf →
      HasLeaf (.object members) (.key key :: path) leaf

theorem hasLeaf_string {text : String} {path : List PathStep} {leaf : Value}
    (holds : HasLeaf (.string text) path leaf) : leaf = .string text := by
  cases holds
  rfl

theorem hasLeaf_nil_iff {value leaf : Value} :
    HasLeaf value [] leaf ↔ value = leaf ∧ value.isScalar = true := by
  constructor
  · intro holds
    cases holds with
    | scalar isScalar => exact ⟨rfl, isScalar⟩
  · rintro ⟨rfl, isScalar⟩
    exact .scalar isScalar

theorem isScalar_maskKeys (marker : String) (selected : String → Bool)
    (value : Value) :
    (maskKeys marker selected value).isScalar = value.isScalar := by
  cases value <;> rfl

theorem maskKeys_of_isScalar {value : Value} (marker : String)
    (selected : String → Bool) (scalar : value.isScalar = true) :
    maskKeys marker selected value = value := by
  cases value <;> simp_all [maskKeys, isScalar]

/-- A leaf other than the marker itself is left in place by the masker exactly
when no key on its path is selected. -/
theorem hasLeaf_maskKeys_iff {marker : String} {selected : String → Bool}
    {leaf : Value} (notMarker : leaf ≠ .string marker) :
    ∀ (path : List PathStep) (value : Value),
      HasLeaf (maskKeys marker selected value) path leaf ↔
        HasLeaf value path leaf ∧
          ∀ name, PathStep.key name ∈ path → selected name = false
  | [], value => by
      rw [hasLeaf_nil_iff, hasLeaf_nil_iff, isScalar_maskKeys]
      constructor
      · rintro ⟨same, scalar⟩
        rw [maskKeys_of_isScalar marker selected scalar] at same
        exact ⟨⟨same, scalar⟩, by simp⟩
      · rintro ⟨⟨same, scalar⟩, _⟩
        exact ⟨(maskKeys_of_isScalar marker selected scalar).trans same,
          scalar⟩
  | .index position :: path, value => by
      constructor
      · intro holds
        cases value with
        | array values =>
            rw [maskKeys, maskList_eq_map] at holds
            cases holds with
            | element found inner =>
                rw [List.getElem?_map, Option.map_eq_some_iff] at found
                obtain ⟨element, present, rfl⟩ := found
                obtain ⟨kept, unselected⟩ :=
                  (hasLeaf_maskKeys_iff notMarker path element).mp inner
                refine ⟨.element present kept, fun name onPath => ?_⟩
                exact unselected name (by simpa using onPath)
        | _ => cases holds
      · rintro ⟨holds, unselected⟩
        cases holds with
        | @element values _ element _ _ present inner =>
            have masked :
                (values.map (maskKeys marker selected))[position]? =
                  some (maskKeys marker selected element) := by
              rw [List.getElem?_map, present]
              rfl
            rw [maskKeys, maskList_eq_map]
            apply HasLeaf.element masked
            exact (hasLeaf_maskKeys_iff notMarker path element).mpr
              ⟨inner, fun name onPath =>
                unselected name (List.mem_cons_of_mem _ onPath)⟩
  | .key key :: path, value => by
      constructor
      · intro holds
        cases value with
        | object members =>
            rw [maskKeys, maskMembers_eq_map] at holds
            cases holds with
            | member found inner =>
                rw [List.mem_map] at found
                obtain ⟨⟨name, element⟩, present, equal⟩ := found
                cases equal
                by_cases isSelected : selected name = true
                · rw [if_pos isSelected] at inner
                  exact absurd (hasLeaf_string inner) notMarker
                · rw [if_neg isSelected] at inner
                  obtain ⟨kept, unselected⟩ :=
                    (hasLeaf_maskKeys_iff notMarker path element).mp inner
                  refine ⟨.member present kept, fun other onPath => ?_⟩
                  rcases List.mem_cons.mp onPath with here | later
                  · cases here
                    simpa using isSelected
                  · exact unselected other later
        | _ => cases holds
      · rintro ⟨holds, unselected⟩
        cases holds with
        | @member members _ element _ _ present inner =>
            have notSelected := unselected _ (List.mem_cons_self ..)
            rw [maskKeys, maskMembers_eq_map]
            refine .member (List.mem_map.mpr ⟨_, present, rfl⟩) ?_
            rw [if_neg (by simp [notSelected])]
            exact (hasLeaf_maskKeys_iff notMarker path element).mpr
              ⟨inner, fun name onPath =>
                unselected name (List.mem_cons_of_mem _ onPath)⟩

end Value

end NetworkManager.Foundation
