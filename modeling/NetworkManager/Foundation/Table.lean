import Mathlib.Data.List.Nodup

/-!
# Tables with a primary key

A table is a list of rows no two of which have the same key.  The list order
is the order of first insertion; replacing a row keeps its place.
-/

namespace NetworkManager.Foundation

/-- The ways in which PostgreSQL refuses a statement. -/
inductive SqlError where
  | uniqueViolation (constraint : String)
  | checkViolation (constraint : String)
  | foreignKeyViolation (constraint : String)
  | other (code : String)
deriving DecidableEq, Repr

/-- `timestamptz`, in microseconds. -/
abbrev Timestamp := Int

/-- `make_interval(secs => count)`, in microseconds. -/
def intervalSeconds (count : Int) : Int := 1000000 * count

variable {κ α : Type}

/-- Replace the row with the key of `row`, or append `row` when there is
none. -/
def putRow [DecidableEq κ] (key : α → κ) (row : α) : List α → List α
  | [] => [row]
  | first :: rest =>
      if key first = key row then
        row :: rest
      else
        first :: putRow key row rest

section Rows

variable [DecidableEq κ]

theorem mem_putRow_key {key : α → κ} {row : α} {tested : κ} :
    ∀ rows : List α,
      tested ∈ (putRow key row rows).map key ↔
        tested = key row ∨ tested ∈ rows.map key
  | [] => by simp [putRow]
  | first :: rest => by
      by_cases same : key first = key row
      · simp [putRow, same]
      · simp only [putRow, if_neg same, List.map_cons, List.mem_cons,
          mem_putRow_key rest]
        tauto

theorem nodup_putRow {key : α → κ} {row : α} :
    ∀ {rows : List α}, (rows.map key).Nodup →
      ((putRow key row rows).map key).Nodup
  | [], _ => by simp [putRow]
  | first :: rest, nodup => by
      rw [List.map_cons, List.nodup_cons] at nodup
      by_cases same : key first = key row
      · rw [putRow, if_pos same, List.map_cons, List.nodup_cons]
        exact ⟨same ▸ nodup.1, nodup.2⟩
      · simp only [putRow, if_neg same, List.map_cons, List.nodup_cons,
          mem_putRow_key, not_or]
        exact ⟨⟨same, nodup.1⟩, nodup_putRow nodup.2⟩

end Rows

/-- Rows with distinct keys. -/
structure Table (κ α : Type) (key : α → κ) where
  rows : List α
  keysNodup : (rows.map key).Nodup

namespace Table

variable {key : α → κ}

/-- The table without rows. -/
def empty (key : α → κ) : Table κ α key := ⟨[], List.nodup_nil⟩

@[ext]
theorem ext {left right : Table κ α key}
    (sameRows : left.rows = right.rows) : left = right := by
  cases left
  cases right
  cases sameRows
  rfl

@[simp]
theorem rows_empty : (empty key : Table κ α key).rows = [] := rfl

variable [DecidableEq κ]

/-- The row with a given key. -/
def lookup (wanted : κ) (table : Table κ α key) : Option α :=
  table.rows.find? fun row => key row = wanted

/-- Replace the row with the same key, or add a row. -/
def put (row : α) (table : Table κ α key) : Table κ α key :=
  ⟨putRow key row table.rows, nodup_putRow table.keysNodup⟩

@[simp]
theorem lookup_empty (wanted : κ) :
    (empty key : Table κ α key).lookup wanted = none := rfl

theorem key_of_lookup {table : Table κ α key} {wanted : κ} {row : α}
    (found : table.lookup wanted = some row) : key row = wanted := by
  simpa using List.find?_some found

theorem mem_of_lookup {table : Table κ α key} {wanted : κ} {row : α}
    (found : table.lookup wanted = some row) : row ∈ table.rows :=
  List.mem_of_find?_eq_some found

theorem find?_eq_of_mem {row : α} :
    ∀ {rows : List α}, (rows.map key).Nodup → row ∈ rows →
      rows.find? (fun tested => key tested = key row) = some row
  | first :: rest, nodup, member => by
      rw [List.map_cons, List.nodup_cons] at nodup
      rcases List.mem_cons.mp member with rfl | later
      · simp
      · have different : key first ≠ key row := by
          intro same
          exact nodup.1 (same ▸ List.mem_map_of_mem later)
        simpa [different] using find?_eq_of_mem nodup.2 later

theorem lookup_of_mem {table : Table κ α key} {row : α}
    (member : row ∈ table.rows) : table.lookup (key row) = some row :=
  find?_eq_of_mem table.keysNodup member

theorem lookup_eq_none_iff {table : Table κ α key} {wanted : κ} :
    table.lookup wanted = none ↔ ∀ row ∈ table.rows, key row ≠ wanted := by
  simp [lookup]

theorem eq_of_mem_of_key_eq {table : Table κ α key} {left right : α}
    (leftMember : left ∈ table.rows) (rightMember : right ∈ table.rows)
    (same : key left = key right) : left = right := by
  have leftFound := lookup_of_mem leftMember
  rw [same, lookup_of_mem rightMember, Option.some.injEq] at leftFound
  exact leftFound.symm

private theorem find_putRow (row : α) (wanted : κ) :
    ∀ rows : List α,
      (putRow key row rows).find? (fun tested => key tested = wanted) =
        if key row = wanted then some row
        else rows.find? fun tested => key tested = wanted
  | [] => by
      by_cases same : key row = wanted <;> simp [putRow, same]
  | first :: rest => by
      by_cases replaced : key first = key row
      · by_cases same : key row = wanted <;>
          simp [putRow, replaced, same]
      · by_cases same : key row = wanted
        · have different : key first ≠ wanted :=
            fun equality => replaced (equality.trans same.symm)
          simp only [putRow, if_neg replaced, List.find?_cons, different,
            decide_false, find_putRow row wanted rest, if_pos same]
        · by_cases here : key first = wanted
          · rw [putRow, if_neg replaced, if_neg same, List.find?_cons,
              List.find?_cons]
            simp only [here, decide_true]
          · simp only [putRow, if_neg replaced, List.find?_cons, here,
              decide_false, find_putRow row wanted rest, if_neg same]

theorem lookup_put (row : α) (wanted : κ) (table : Table κ α key) :
    (table.put row).lookup wanted =
      if key row = wanted then some row else table.lookup wanted :=
  find_putRow row wanted table.rows

@[simp]
theorem lookup_put_self (row : α) (table : Table κ α key) :
    (table.put row).lookup (key row) = some row := by
  rw [lookup_put, if_pos rfl]

theorem lookup_put_of_ne {row : α} {wanted : κ} {table : Table κ α key}
    (different : key row ≠ wanted) :
    (table.put row).lookup wanted = table.lookup wanted := by
  rw [lookup_put, if_neg different]

theorem mem_put {row tested : α} {table : Table κ α key} :
    tested ∈ (table.put row).rows ↔
      tested = row ∨ tested ∈ table.rows ∧ key tested ≠ key row := by
  constructor
  · intro member
    have found := lookup_of_mem member
    rw [lookup_put] at found
    split at found
    · exact Or.inl (Option.some.inj found).symm
    · rename_i different
      exact Or.inr ⟨mem_of_lookup found, Ne.symm different⟩
  · rintro (rfl | ⟨member, different⟩)
    · exact mem_of_lookup (lookup_put_self tested table)
    · have found : (table.put row).lookup (key tested) = some tested := by
        rw [lookup_put_of_ne (Ne.symm different), lookup_of_mem member]
      exact mem_of_lookup found

theorem mem_put_self (row : α) (table : Table κ α key) :
    row ∈ (table.put row).rows := mem_put.mpr (Or.inl rfl)

/-- A row with a new key goes to the end. -/
theorem rows_put_of_lookup_none {row : α} {table : Table κ α key}
    (absent : table.lookup (key row) = none) :
    (table.put row).rows = table.rows ++ [row] := by
  have appended : ∀ rows : List α, (∀ tested ∈ rows, key tested ≠ key row) →
      putRow key row rows = rows ++ [row] := by
    intro rows
    induction rows with
    | nil => intro _; rfl
    | cons first rest inductionHypothesis =>
        intro fresh
        rw [putRow, if_neg (fresh first (List.mem_cons_self ..)),
          inductionHypothesis fun tested member =>
            fresh tested (List.mem_cons_of_mem first member)]
        rfl
  exact appended table.rows (lookup_eq_none_iff.mp absent)

/-- Replacing a row keeps the keys. -/
theorem map_key_put {row : α} {table : Table κ α key}
    (present : (table.lookup (key row)).isSome) :
    (table.put row).rows.map key = table.rows.map key := by
  have replaced : ∀ rows : List α, (∃ tested ∈ rows, key tested = key row) →
      (putRow key row rows).map key = rows.map key := by
    intro rows
    induction rows with
    | nil => simp
    | cons first rest inductionHypothesis =>
        rintro ⟨tested, member, sameKey⟩
        by_cases here : key first = key row
        · rw [putRow, if_pos here, List.map_cons, List.map_cons, here]
        · rcases List.mem_cons.mp member with rfl | later
          · exact absurd sameKey here
          · rw [putRow, if_neg here, List.map_cons, List.map_cons,
              inductionHypothesis ⟨tested, later, sameKey⟩]
  rcases Option.isSome_iff_exists.mp present with ⟨stored, found⟩
  exact replaced table.rows ⟨stored, mem_of_lookup found, key_of_lookup found⟩

/-! ## Updates -/

omit [DecidableEq κ] in
private theorem map_update_key {selected : α → Bool} {change : α → α}
    (sameKey : ∀ row, key (change row) = key row) (rows : List α) :
    (rows.map fun row => if selected row then change row else row).map key =
      rows.map key := by
  rw [List.map_map]
  apply List.map_congr_left
  intro row _
  by_cases chosen : selected row = true <;> simp [chosen, sameKey]

/-- Change every row that a condition selects, without touching its key. -/
def update (selected : α → Bool) (change : α → α)
    (sameKey : ∀ row, key (change row) = key row) (table : Table κ α key) :
    Table κ α key where
  rows := table.rows.map fun row => if selected row then change row else row
  keysNodup := by
    rw [map_update_key sameKey]
    exact table.keysNodup

omit [DecidableEq κ] in
theorem mem_update {selected : α → Bool} {change : α → α}
    {sameKey : ∀ row, key (change row) = key row} {table : Table κ α key}
    {row : α} :
    row ∈ (table.update selected change sameKey).rows ↔
      ∃ old ∈ table.rows,
        (if selected old then change old else old) = row :=
  List.mem_map

theorem lookup_update {selected : α → Bool} {change : α → α}
    {sameKey : ∀ row, key (change row) = key row} {table : Table κ α key}
    {wanted : κ} :
    (table.update selected change sameKey).lookup wanted =
      (table.lookup wanted).map fun row =>
        if selected row then change row else row := by
  rw [lookup, lookup, update, List.find?_map]
  have sameCondition :
      ((fun row => decide (key row = wanted)) ∘ fun row =>
          if selected row then change row else row) =
        fun row => decide (key row = wanted) := by
    funext row
    by_cases chosen : selected row = true <;> simp [chosen, sameKey]
  rw [sameCondition]

theorem lookup_update_eq {selected : α → Bool} {change whole : α → α}
    {table : Table κ α key} {wanted : κ}
    (sameKey : ∀ row, key (change row) = key row)
    (same : ∀ row, (if selected row then change row else row) = whole row) :
    (table.update selected change sameKey).lookup wanted =
      (table.lookup wanted).map whole := by
  rw [lookup_update]
  exact congrArg (Option.map · (table.lookup wanted)) (funext same)

omit [DecidableEq κ] in
/-- Conditions that select the same rows make the same change. -/
theorem update_congr {first second : α → Bool} {change : α → α}
    {sameKey : ∀ row, key (change row) = key row} {table : Table κ α key}
    (same : ∀ row ∈ table.rows, first row = second row) :
    table.update first change sameKey = table.update second change sameKey := by
  apply ext
  apply List.map_congr_left
  intro row member
  rw [same row member]

omit [DecidableEq κ] in
theorem update_none {change : α → α}
    {sameKey : ∀ row, key (change row) = key row} (table : Table κ α key) :
    table.update (fun _ => false) change sameKey = table := by
  apply ext
  exact (List.map_congr_left fun _ _ => rfl).trans (List.map_id _)

omit [DecidableEq κ] in
/-- A change that is made for one reason or another. -/
theorem update_update {first second : α → Bool} {change : α → α}
    {sameKey : ∀ row, key (change row) = key row} {table : Table κ α key}
    (again : ∀ row, change (change row) = change row)
    (unmoved : ∀ row, second (change row) = second row) :
    (table.update first change sameKey).update second change sameKey =
      table.update (fun row => first row || second row) change sameKey := by
  apply ext
  apply List.map_map.trans
  apply List.map_congr_left
  intro row _
  by_cases early : first row = true
  · by_cases late : second row = true
    · simp [early, late, unmoved, again]
    · simp [early, late, unmoved]
  · simp [early]

/-- `INSERT ... ON CONFLICT DO UPDATE`: a stored row with the same key is
replaced by what `merge` makes of the given row and it. -/
def upsert (merge : α → α → α) (row : α) (table : Table κ α key) :
    Table κ α key :=
  table.put ((table.lookup (key row)).elim row (merge row))

/-- Insert several rows, the first one first. -/
def upsertAll (merge : α → α → α) (rows : List α) (table : Table κ α key) :
    Table κ α key :=
  rows.foldl (fun reached row => reached.upsert merge row) table

@[simp]
theorem upsertAll_nil (merge : α → α → α) (table : Table κ α key) :
    table.upsertAll merge [] = table := rfl

@[simp]
theorem upsertAll_cons (merge : α → α → α) (row : α) (rows : List α)
    (table : Table κ α key) :
    table.upsertAll merge (row :: rows) =
      (table.upsert merge row).upsertAll merge rows := rfl

section Upsert

variable {merge : α → α → α} (sameKey : ∀ given stored,
  key (merge given stored) = key stored)

include sameKey in
theorem lookup_upsert (row : α) (wanted : κ) (table : Table κ α key) :
    (table.upsert merge row).lookup wanted =
      if key row = wanted then
        some ((table.lookup wanted).elim row (merge row))
      else table.lookup wanted := by
  have keyOfMerged :
      key ((table.lookup (key row)).elim row (merge row)) = key row := by
    cases found : table.lookup (key row) with
    | none => rfl
    | some stored => exact (sameKey row stored).trans (key_of_lookup found)
  rw [upsert, lookup_put, keyOfMerged]
  by_cases same : key row = wanted
  · rw [if_pos same, if_pos same, same]
  · rw [if_neg same, if_neg same]

include sameKey in
theorem lookup_upsertAll_of_notMem {rows : List α} {wanted : κ}
    (absent : ∀ row ∈ rows, key row ≠ wanted) (table : Table κ α key) :
    (table.upsertAll merge rows).lookup wanted = table.lookup wanted := by
  induction rows generalizing table with
  | nil => rfl
  | cons row rest inductionHypothesis =>
      rw [upsertAll_cons, inductionHypothesis
          (fun other member => absent other (List.mem_cons_of_mem row member)),
        lookup_upsert sameKey, if_neg (absent row (List.mem_cons_self ..))]

include sameKey in
/-- Of rows with distinct keys, each is merged with what was stored. -/
theorem lookup_upsertAll_of_mem {rows : List α} (nodup : (rows.map key).Nodup)
    {row : α} (member : row ∈ rows) (table : Table κ α key) :
    (table.upsertAll merge rows).lookup (key row) =
      some ((table.lookup (key row)).elim row (merge row)) := by
  induction rows generalizing table with
  | nil => simp at member
  | cons first rest inductionHypothesis =>
      rw [List.map_cons, List.nodup_cons] at nodup
      rcases List.mem_cons.mp member with rfl | later
      · have absent : ∀ other ∈ rest, key other ≠ key row := by
          intro other otherMember same
          exact nodup.1 (same ▸ List.mem_map_of_mem otherMember)
        rw [upsertAll_cons, lookup_upsertAll_of_notMem sameKey absent,
          lookup_upsert sameKey, if_pos rfl]
      · have different : key first ≠ key row := by
          intro same
          exact nodup.1 (same ▸ List.mem_map_of_mem later)
        rw [upsertAll_cons, inductionHypothesis nodup.2 later,
          lookup_upsert sameKey, if_neg different]

include sameKey in
theorem isSome_lookup_upsertAll (rows : List α) (wanted : κ)
    (table : Table κ α key) :
    ((table.upsertAll merge rows).lookup wanted).isSome ↔
      wanted ∈ rows.map key ∨ (table.lookup wanted).isSome := by
  induction rows generalizing table with
  | nil => simp
  | cons row rest inductionHypothesis =>
      rw [upsertAll_cons, inductionHypothesis, lookup_upsert sameKey]
      by_cases same : key row = wanted
      · simp [same]
      · simp [same, Ne.symm same]

end Upsert

end Table

end NetworkManager.Foundation
