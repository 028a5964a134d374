import Mathlib.Data.List.Chain
import Mathlib.Data.List.Perm.Subperm
import Mathlib.Data.List.Sort

/-!
# Pages of a sorted list

A reader asks for the pages of a sorted list one after the other, by offset and
limit.  As long as the list is the same, the pages together are the list.  When
it changes between two pages, an entry that only moves towards the end is still
on one of them.
-/

namespace NetworkManager.Foundation

section Pages

variable {α : Type} (order : α → α → Prop) [DecidableRel order]

/-- The page behind the first `offset` entries. -/
def page (rows : List α) (offset limit : Nat) : List α :=
  ((rows.insertionSort order).drop offset).take limit

/-- The pages that a reader gets who starts at an offset and finds a list for
each. -/
def pages (limit : Nat) : Nat → List (List α) → List (List α)
  | _, [] => []
  | offset, rows :: rest =>
      page order rows offset limit :: pages limit (offset + limit) rest

/-- How many entries a row does not precede. -/
def rank (rows : List α) (row : α) : Nat :=
  rows.countP fun other => !decide (order row other)

/-- No two entries have the same place in the order. -/
structure Separates (rows : List α) : Prop where
  nodup : rows.Nodup
  eq_of_both : ∀ left ∈ rows, ∀ right ∈ rows,
    order left right → order right left → left = right

/-- The last page is not full, which is how a reader knows it is the last. -/
def EndsShort (limit : Nat) (listed : List (List α)) : Prop :=
  ∃ last, listed.getLast? = some last ∧ last.length < limit

theorem length_page (rows : List α) (offset limit : Nat) :
    (page order rows offset limit).length =
      min limit (rows.length - offset) := by
  rw [page, List.length_take, List.length_drop, List.length_insertionSort]

theorem rank_le_length (rows : List α) (row : α) :
    rank order rows row ≤ rows.length := List.countP_le_length

variable {order}

/-- The pages of a list that does not change are its parts. -/
theorem flatten_pages_replicate (rows : List α) (limit count offset : Nat) :
    (pages order limit offset (List.replicate count rows)).flatten =
      ((rows.insertionSort order).drop offset).take (count * limit) := by
  induction count generalizing offset with
  | zero => simp [pages]
  | succ count inductionHypothesis =>
      rw [List.replicate_succ, pages, List.flatten_cons, inductionHypothesis,
        page, Nat.succ_mul, Nat.add_comm (count * limit), List.take_add,
        List.drop_drop]

/-- If what a row does not precede stays so, under its key, then the rank of the
row does not fall. -/
theorem rank_le_rank {κ : Type} (key : α → κ) {before after : List α} {row : α}
    (nodup : (before.map key).Nodup)
    (kept : ∀ other ∈ before, ¬order row other →
      ∃ later ∈ after, key later = key other ∧ ¬order row later) :
    rank order before row ≤ rank order after row := by
  have keys : ((before.filter fun other => !decide (order row other)).map
      key).Nodup := nodup.sublist (List.filter_sublist.map key)
  have subset : (before.filter fun other => !decide (order row other)).map key ⊆
      (after.filter fun other => !decide (order row other)).map key := by
    intro tested member
    obtain ⟨other, selected, rfl⟩ := List.mem_map.mp member
    obtain ⟨otherMember, notBefore⟩ := List.mem_filter.mp selected
    obtain ⟨later, laterMember, sameKey, stillNot⟩ :=
      kept other otherMember (by simpa using notBefore)
    rw [← sameKey]
    exact List.mem_map_of_mem
      (List.mem_filter.mpr ⟨laterMember, by simpa using stillNot⟩)
  have lengths := (List.subperm_of_subset keys subset).length_le
  rw [List.length_map, List.length_map] at lengths
  rw [rank, rank, List.countP_eq_length_filter, List.countP_eq_length_filter]
  exact lengths

variable [Std.Total order] [IsTrans α order]

/-- In the sorted list a row stands behind those that it does not precede. -/
theorem getElem?_rank {rows : List α} {row : α} (separates : Separates order rows)
    (member : row ∈ rows) :
    (rows.insertionSort order)[rank order rows row]? = some row := by
  have perm := List.perm_insertionSort order rows
  have sorted : (rows.insertionSort order).Pairwise order :=
    List.pairwise_insertionSort order rows
  have nodup : (rows.insertionSort order).Nodup :=
    perm.nodup_iff.mpr separates.nodup
  obtain ⟨before, after, parts⟩ :=
    List.append_of_mem (perm.mem_iff.mpr member)
  have sameRank : rank order rows row =
      (before ++ row :: after).countP fun other => !decide (order row other) := by
    rw [← parts, rank, perm.countP_eq]
  rw [parts] at sorted nodup
  rw [List.pairwise_append, List.pairwise_cons] at sorted
  rw [List.nodup_append] at nodup
  have reflexive : order row row := Std.Refl.refl row
  have behind : (row :: after).countP
      (fun other => !decide (order row other)) = 0 := by
    apply List.countP_eq_zero.mpr
    intro other otherMember
    rcases List.mem_cons.mp otherMember with rfl | later
    · simp [reflexive]
    · simp [sorted.2.1.1 other later]
  have ahead : before.countP (fun other => !decide (order row other)) =
      before.length := by
    apply List.countP_eq_length.mpr
    intro other earlier
    have inOrder := sorted.2.2 other earlier row (List.mem_cons_self ..)
    have different : other ≠ row :=
      nodup.2.2 other earlier row (List.mem_cons_self ..)
    have otherMember : other ∈ rows := by
      rw [← perm.mem_iff, parts]
      exact List.mem_append_left _ earlier
    have notBefore : ¬order row other := fun back =>
      different (separates.eq_of_both other otherMember row member inOrder back)
    simp [notBefore]
  rw [sameRank, List.countP_append, behind, ahead, parts, Nat.add_zero,
    List.getElem?_append_right (le_refl _), Nat.sub_self]
  rfl

/-- A row is on the page that its rank falls into. -/
theorem mem_page {rows : List α} {row : α} {offset limit : Nat}
    (separates : Separates order rows) (member : row ∈ rows)
    (notBefore : offset ≤ rank order rows row)
    (notAfter : rank order rows row < offset + limit) :
    row ∈ page order rows offset limit := by
  have found := getElem?_rank separates member
  have position : rank order rows row =
      offset + (rank order rows row - offset) := by omega
  rw [position, ← List.getElem?_drop] at found
  apply List.mem_of_getElem? (i := rank order rows row - offset)
  rw [page, List.getElem?_take, if_pos (by omega)]
  exact found

/-- A row that is in every list, and whose rank never falls, is on one of the
pages. -/
theorem exists_mem_pages {limit offset : Nat} {row : α} {tables : List (List α)}
    (separates : ∀ rows ∈ tables, Separates order rows)
    (present : ∀ rows ∈ tables, row ∈ rows)
    (rises : tables.IsChain fun before after =>
      rank order before row ≤ rank order after row)
    (ahead : ∀ rows, tables.head? = some rows → offset ≤ rank order rows row)
    (short : EndsShort limit (pages order limit offset tables)) :
    ∃ listed ∈ pages order limit offset tables, row ∈ listed := by
  induction tables generalizing offset with
  | nil =>
      obtain ⟨last, isLast, _⟩ := short
      cases isLast
  | cons rows rest inductionHypothesis =>
      have notBefore := ahead rows rfl
      by_cases here : rank order rows row < offset + limit
      · exact ⟨_, List.mem_cons_self .., mem_page
          (separates rows (List.mem_cons_self ..))
          (present rows (List.mem_cons_self ..)) notBefore here⟩
      · have later : offset + limit ≤ rank order rows row := Nat.not_lt.mp here
        cases rest with
        | nil =>
            obtain ⟨last, isLast, isShort⟩ := short
            obtain rfl := Option.some.inj isLast
            have lengths := length_page order rows offset limit
            have isShort : (page order rows offset limit).length < limit :=
              isShort
            have bounded := rank_le_length order rows row
            omega
        | cons next others =>
            rw [List.isChain_cons_cons] at rises
            have shortAfter : EndsShort limit
                (pages order limit (offset + limit) (next :: others)) := by
              obtain ⟨last, isLast, isShort⟩ := short
              exact ⟨last, isLast, isShort⟩
            have aheadAfter : ∀ given,
                (next :: others).head? = some given →
                  offset + limit ≤ rank order given row := by
              intro given isGiven
              obtain rfl := Option.some.inj isGiven
              exact later.trans rises.1
            obtain ⟨listed, isPage, isListed⟩ := inductionHypothesis
              (fun given member =>
                separates given (List.mem_cons_of_mem rows member))
              (fun given member =>
                present given (List.mem_cons_of_mem rows member))
              rises.2 aheadAfter shortAfter
            exact ⟨listed, List.mem_cons_of_mem _ isPage, isListed⟩

end Pages

end NetworkManager.Foundation
