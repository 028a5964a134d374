import NetworkManager.Foundation.Table

/-!
# Rows with a natural key and an identifier

A table is looked up by a natural key, and each row has an identifier that it
gets when it is inserted.  An upsert inserts a row under a new key and changes
the row of a known one, so that a key names one identifier forever.
-/

namespace NetworkManager.Foundation.Table

variable {κ ι α : Type} [DecidableEq κ] {key : α → κ}

/-- The row that `INSERT .. ON CONFLICT (key) DO UPDATE` writes. -/
def upserted (fresh : α) (change : α → α) (table : Table κ α key) : α :=
  match table.lookup (key fresh) with
  | some row => change row
  | none => fresh

/-- The identifier that a key names. -/
def idOf (id : α → ι) (wanted : κ) (table : Table κ α key) : Option ι :=
  (table.lookup wanted).map id

/-- No two rows have one identifier. -/
def Identified (id : α → ι) (table : Table κ α key) : Prop :=
  ∀ left ∈ table.rows, ∀ right ∈ table.rows, id left = id right → left = right

/-- Every key that named an identifier still names it. -/
def Keeps (id : α → ι) (before after : Table κ α key) : Prop :=
  ∀ wanted named, before.idOf id wanted = some named →
    after.idOf id wanted = some named

section Identifiers

variable {id : α → ι} {table : Table κ α key} {fresh : α} {change : α → α}

theorem idOf_eq_some_iff {wanted : κ} {named : ι} :
    table.idOf id wanted = some named ↔
      ∃ row ∈ table.rows, key row = wanted ∧ id row = named := by
  rw [idOf, Option.map_eq_some_iff]
  constructor
  · rintro ⟨row, found, isNamed⟩
    exact ⟨row, mem_of_lookup found, key_of_lookup found, isNamed⟩
  · rintro ⟨row, member, rfl, isNamed⟩
    exact ⟨row, lookup_of_mem member, isNamed⟩

/-- Distinct keys name distinct identifiers. -/
theorem Identified.key_unique (identified : table.Identified id)
    {left right : κ} {named : ι} (isLeft : table.idOf id left = some named)
    (isRight : table.idOf id right = some named) : left = right := by
  obtain ⟨leftRow, leftMember, rfl, leftNamed⟩ := idOf_eq_some_iff.mp isLeft
  obtain ⟨rightRow, rightMember, rfl, rightNamed⟩ :=
    idOf_eq_some_iff.mp isRight
  rw [identified leftRow leftMember rightRow rightMember
    (leftNamed.trans rightNamed.symm)]

omit [DecidableEq κ] in
theorem identified_empty : (empty key : Table κ α key).Identified id := by
  rintro _ ⟨⟩

theorem keeps_refl (table : Table κ α key) : table.Keeps id table :=
  fun _ _ named => named

theorem Keeps.trans {first middle last : Table κ α key}
    (before : first.Keeps id middle) (after : middle.Keeps id last) :
    first.Keeps id last :=
  fun wanted named isNamed => after wanted named (before wanted named isNamed)

theorem key_upserted (sameKey : ∀ row, key (change row) = key row)
    (fresh : α) (table : Table κ α key) :
    key (table.upserted fresh change) = key fresh := by
  rw [upserted]
  cases found : table.lookup (key fresh) with
  | none => rfl
  | some row => exact (sameKey row).trans (key_of_lookup found)

/-- An upsert takes no key its identifier. -/
theorem keeps_put_upserted (sameKey : ∀ row, key (change row) = key row)
    (sameId : ∀ row, id (change row) = id row) (fresh : α)
    (table : Table κ α key) :
    table.Keeps id (table.put (table.upserted fresh change)) := by
  intro wanted named isNamed
  rw [idOf, lookup_put, key_upserted sameKey]
  split
  · subst wanted
    rw [idOf, Option.map_eq_some_iff] at isNamed
    obtain ⟨row, found, rfl⟩ := isNamed
    rw [upserted, found, Option.map_some, sameId]
  · exact isNamed

/-- The key of an upsert names the identifier of the row that it writes. -/
theorem idOf_put_upserted (sameKey : ∀ row, key (change row) = key row)
    (fresh : α) (table : Table κ α key) :
    (table.put (table.upserted fresh change)).idOf id (key fresh) =
      some (id (table.upserted fresh change)) := by
  rw [idOf, lookup_put, if_pos (key_upserted sameKey fresh table),
    Option.map_some]

/-- An upsert with a new identifier keeps identifiers distinct. -/
theorem Identified.put_upserted (sameKey : ∀ row, key (change row) = key row)
    (sameId : ∀ row, id (change row) = id row)
    (identified : table.Identified id)
    (unused : table.lookup (key fresh) = none →
      ∀ row ∈ table.rows, id row ≠ id fresh) :
    (table.put (table.upserted fresh change)).Identified id := by
  have others : ∀ row ∈ table.rows, key row ≠ key fresh →
      id row ≠ id (table.upserted fresh change) := by
    intro row member different
    rw [upserted]
    cases found : table.lookup (key fresh) with
    | none => exact unused found row member
    | some stored =>
        rw [sameId]
        intro same
        rw [identified row member stored (mem_of_lookup found) same] at different
        exact different (key_of_lookup found)
  intro left leftMember right rightMember same
  rw [mem_put, key_upserted sameKey] at leftMember rightMember
  rcases leftMember with rfl | ⟨leftMember, leftOther⟩
  · rcases rightMember with rfl | ⟨rightMember, rightOther⟩
    · rfl
    · exact absurd same.symm (others right rightMember rightOther)
  · rcases rightMember with rfl | ⟨rightMember, rightOther⟩
    · exact absurd same (others left leftMember leftOther)
    · exact identified left leftMember right rightMember same

end Identifiers

end NetworkManager.Foundation.Table
