import NetworkManager.Foundation.Json

/-!
# Parts of JSON values

Two values may differ in nothing but what stands directly under the selected
keys, at any depth.  The masker cannot tell such values apart, and it can tell
apart all others: `maskKeys_eq_iff`.  A part that is reached without a selected
key keeps its place, its keys and its elements.
-/

namespace NetworkManager.Foundation.Value

mutual

/-- The values are the same outside the selected keys. -/
inductive AgreeOutside (selected : String → Bool) : Value → Value → Prop
  | same (value : Value) : AgreeOutside selected value value
  | array {lefts rights : List Value} :
      ElementsAgree selected lefts rights →
      AgreeOutside selected (.array lefts) (.array rights)
  | object {lefts rights : List (String × Value)} :
      MembersAgree selected lefts rights →
      AgreeOutside selected (.object lefts) (.object rights)

inductive ElementsAgree (selected : String → Bool) :
    List Value → List Value → Prop
  | nil : ElementsAgree selected [] []
  | cons {left right : Value} {lefts rights : List Value} :
      AgreeOutside selected left right →
      ElementsAgree selected lefts rights →
      ElementsAgree selected (left :: lefts) (right :: rights)

inductive MembersAgree (selected : String → Bool) :
    List (String × Value) → List (String × Value) → Prop
  | nil : MembersAgree selected [] []
  | hidden {key : String} (left right : Value)
      {lefts rights : List (String × Value)} :
      selected key = true → MembersAgree selected lefts rights →
      MembersAgree selected ((key, left) :: lefts) ((key, right) :: rights)
  | shown {key : String} {left right : Value}
      {lefts rights : List (String × Value)} :
      AgreeOutside selected left right → MembersAgree selected lefts rights →
      MembersAgree selected ((key, left) :: lefts) ((key, right) :: rights)

end

section Masking

variable {marker : String} {selected : String → Bool}

mutual

/-- What stands under the selected keys does not matter to the masker. -/
theorem AgreeOutside.maskKeys_eq :
    ∀ {left right : Value}, AgreeOutside selected left right →
      maskKeys marker selected left = maskKeys marker selected right
  | _, _, .same _ => rfl
  | _, _, .array agree => congrArg Value.array agree.maskList_eq
  | _, _, .object agree => congrArg Value.object agree.maskMembers_eq

theorem ElementsAgree.maskList_eq :
    ∀ {lefts rights : List Value}, ElementsAgree selected lefts rights →
      maskList marker selected lefts = maskList marker selected rights
  | _, _, .nil => rfl
  | _, _, .cons first rest => by
      rw [maskList, maskList, first.maskKeys_eq, rest.maskList_eq]

theorem MembersAgree.maskMembers_eq :
    ∀ {lefts rights : List (String × Value)},
      MembersAgree selected lefts rights →
      maskMembers marker selected lefts = maskMembers marker selected rights
  | _, _, .nil => rfl
  | _, _, .hidden left right isSelected rest => by
      simp only [maskMembers, isSelected, if_true, rest.maskMembers_eq]
  | _, _, .shown first rest => by
      simp only [maskMembers, first.maskKeys_eq, rest.maskMembers_eq]

end

mutual

theorem agreeOutside_of_maskKeys_eq :
    ∀ left right : Value,
      maskKeys marker selected left = maskKeys marker selected right →
      AgreeOutside selected left right
  | .array lefts, right, same => by
      cases right with
      | array rights =>
          exact .array (elementsAgree_of_maskList_eq lefts rights
            (Value.array.inj same))
      | _ => cases same
  | .object lefts, right, same => by
      cases right with
      | object rights =>
          exact .object (membersAgree_of_maskMembers_eq lefts rights
            (Value.object.inj same))
      | _ => cases same
  | .null, right, same => by cases right <;> cases same; exact .same _
  | .bool _, right, same => by cases right <;> cases same; exact .same _
  | .number _, right, same => by cases right <;> cases same; exact .same _
  | .string _, right, same => by cases right <;> cases same; exact .same _

theorem elementsAgree_of_maskList_eq :
    ∀ lefts rights : List Value,
      maskList marker selected lefts = maskList marker selected rights →
      ElementsAgree selected lefts rights
  | [], rights, same => by
      cases rights with
      | nil => exact .nil
      | cons right rights => cases same
  | left :: lefts, rights, same => by
      cases rights with
      | nil => cases same
      | cons right rights =>
          rw [maskList, maskList, List.cons.injEq] at same
          exact .cons (agreeOutside_of_maskKeys_eq left right same.1)
            (elementsAgree_of_maskList_eq lefts rights same.2)

theorem membersAgree_of_maskMembers_eq :
    ∀ lefts rights : List (String × Value),
      maskMembers marker selected lefts = maskMembers marker selected rights →
      MembersAgree selected lefts rights
  | [], rights, same => by
      cases rights with
      | nil => exact .nil
      | cons right rights => cases same
  | (key, left) :: lefts, rights, same => by
      cases rights with
      | nil => cases same
      | cons right rights =>
          obtain ⟨rightKey, right⟩ := right
          rw [maskMembers, maskMembers, List.cons.injEq, Prod.mk.injEq] at same
          obtain ⟨⟨sameKey, sameValue⟩, sameRest⟩ := same
          subst sameKey
          have rest := membersAgree_of_maskMembers_eq lefts rights sameRest
          by_cases isSelected : selected key = true
          · exact .hidden left right isSelected rest
          · rw [if_neg isSelected, if_neg isSelected] at sameValue
            exact .shown (agreeOutside_of_maskKeys_eq left right sameValue)
              rest

end

/-- The masker tells two values apart exactly by what does not stand under a
selected key. -/
theorem maskKeys_eq_iff {left right : Value} :
    maskKeys marker selected left = maskKeys marker selected right ↔
      AgreeOutside selected left right :=
  ⟨agreeOutside_of_maskKeys_eq left right, AgreeOutside.maskKeys_eq⟩

/-- The masker changes nothing but what stands under the selected keys. -/
theorem agreeOutside_maskKeys (value : Value) :
    AgreeOutside selected value (maskKeys marker selected value) :=
  maskKeys_eq_iff.mp (maskKeys_maskKeys value).symm

end Masking

/-! ## Parts -/

/-- `part` is the value that a path leads to. -/
inductive Reaches : Value → List PathStep → Value → Prop
  | here {value : Value} : Reaches value [] value
  | element {values : List Value} {position : Nat} {value part : Value}
      {path : List PathStep} :
      values[position]? = some value → Reaches value path part →
      Reaches (.array values) (.index position :: path) part
  | member {members : List (String × Value)} {key : String}
      {value part : Value} {path : List PathStep} :
      (key, value) ∈ members → Reaches value path part →
      Reaches (.object members) (.key key :: path) part

theorem reaches_nil_iff {value part : Value} :
    Reaches value [] part ↔ value = part := by
  constructor
  · intro reaches
    cases reaches
    rfl
  · rintro rfl
    exact .here

/-- No key on the path is selected. -/
def Avoids (selected : String → Bool) (path : List PathStep) : Prop :=
  ∀ name, PathStep.key name ∈ path → selected name = false

section Parts

variable {marker : String} {selected : String → Bool}

theorem Avoids.tail {step : PathStep} {path : List PathStep}
    (avoids : Avoids selected (step :: path)) : Avoids selected path :=
  fun name onPath => avoids name (List.mem_cons_of_mem step onPath)

/-- A part that is reached without a selected key stays in its place. -/
theorem Reaches.maskKeys {value part : Value} {path : List PathStep}
    (reaches : Reaches value path part) (avoids : Avoids selected path) :
    Reaches (maskKeys marker selected value) path
      (maskKeys marker selected part) := by
  induction reaches with
  | here => exact .here
  | @element values position value part path found _ inductionHypothesis =>
      have masked :
          (values.map (Value.maskKeys marker selected))[position]? =
            some (Value.maskKeys marker selected value) := by
        rw [List.getElem?_map, found]
        rfl
      rw [Value.maskKeys, maskList_eq_map]
      exact .element masked (inductionHypothesis avoids.tail)
  | @member members key value part path found _ inductionHypothesis =>
      have notSelected : selected key = false :=
        avoids key (List.mem_cons_self ..)
      rw [Value.maskKeys, maskMembers_eq_map]
      refine .member (List.mem_map.mpr ⟨_, found, rfl⟩) ?_
      rw [if_neg (by simp [notSelected])]
      exact inductionHypothesis avoids.tail

/-- Nothing is reached without a selected key that was not there before. -/
theorem Reaches.of_maskKeys {part : Value} :
    ∀ {path : List PathStep} {value : Value},
      Reaches (Value.maskKeys marker selected value) path part →
      Avoids selected path →
      ∃ original, Reaches value path original ∧
        part = Value.maskKeys marker selected original
  | [], value, reaches, _ =>
      ⟨value, .here, (reaches_nil_iff.mp reaches).symm⟩
  | .index position :: path, value, reaches, avoids => by
      cases value with
      | array values =>
          rw [Value.maskKeys, maskList_eq_map] at reaches
          cases reaches with
          | element found inner =>
              rw [List.getElem?_map, Option.map_eq_some_iff] at found
              obtain ⟨element, present, rfl⟩ := found
              obtain ⟨original, reached, same⟩ :=
                inner.of_maskKeys avoids.tail
              exact ⟨original, .element present reached, same⟩
      | _ => cases reaches
  | .key key :: path, value, reaches, avoids => by
      have notSelected : selected key = false :=
        avoids key (List.mem_cons_self ..)
      cases value with
      | object members =>
          rw [Value.maskKeys, maskMembers_eq_map] at reaches
          cases reaches with
          | member found inner =>
              rw [List.mem_map] at found
              obtain ⟨⟨name, element⟩, present, equal⟩ := found
              cases equal
              rw [if_neg (by simp [notSelected])] at inner
              obtain ⟨original, reached, same⟩ :=
                inner.of_maskKeys avoids.tail
              exact ⟨original, .member present reached, same⟩
      | _ => cases reaches

/-- No selected key occurs in the value. -/
def Free (selected : String → Bool) (value : Value) : Prop :=
  ∀ path part, Reaches value path part → Avoids selected path

theorem Free.element {values : List Value} (free : Free selected (.array values))
    {value : Value} (member : value ∈ values) : Free selected value := by
  intro path part reaches
  obtain ⟨position, found⟩ := List.mem_iff_getElem?.mp member
  exact (free _ part (.element found reaches)).tail

theorem Free.member {members : List (String × Value)}
    (free : Free selected (.object members)) {key : String} {value : Value}
    (member : (key, value) ∈ members) :
    selected key = false ∧ Free selected value := by
  constructor
  · exact free [.key key] value (.member member .here) key
      (List.mem_cons_self ..)
  · intro path part reaches
    exact (free _ part (.member member reaches)).tail

mutual

/-- A value without a selected key is left as it is. -/
theorem Free.maskKeys_eq :
    ∀ {value : Value}, Free selected value →
      Value.maskKeys marker selected value = value
  | .array values, free =>
      congrArg Value.array (maskList_eq_of_free values fun _ => free.element)
  | .object members, free =>
      congrArg Value.object
        (maskMembers_eq_of_free members fun _ _ => free.member)
  | .null, _ => rfl
  | .bool _, _ => rfl
  | .number _, _ => rfl
  | .string _, _ => rfl

theorem maskList_eq_of_free :
    ∀ values : List Value, (∀ value ∈ values, Free selected value) →
      maskList marker selected values = values
  | [], _ => rfl
  | value :: rest, free => by
      have first : Value.maskKeys marker selected value = value :=
        (free value (List.mem_cons_self ..)).maskKeys_eq
      have later := maskList_eq_of_free rest fun other member =>
        free other (List.mem_cons_of_mem value member)
      rw [maskList, first, later]

theorem maskMembers_eq_of_free :
    ∀ members : List (String × Value),
      (∀ key value, (key, value) ∈ members →
        selected key = false ∧ Free selected value) →
      maskMembers marker selected members = members
  | [], _ => rfl
  | (key, value) :: rest, free => by
      obtain ⟨notSelected, isFree⟩ := free key value (List.mem_cons_self ..)
      have later := maskMembers_eq_of_free rest fun name other member =>
        free name other (List.mem_cons_of_mem _ member)
      rw [maskMembers, later, isFree.maskKeys_eq, notSelected]
      rfl

end

end Parts

end NetworkManager.Foundation.Value
