import Mathlib.Data.List.Basic

/-!
# Registers that tell the first entry of a key

A register knows some keys, and whoever enters a key is told whether it is new.
A call may be dropped before it takes effect, or its answer may be lost after.
Of all the calls for a key at most one learns that it was the first: the first
one that takes effect, if its answer arrives.
-/

namespace NetworkManager.Foundation

structure Register (σ ι κ : Type) where
  Knows : σ → κ → Prop
  keyOf : ι → κ
  enter : ι → σ → Bool × σ
  enter_iff : ∀ item state,
    (enter item state).1 = true ↔ ¬Knows state (keyOf item)
  knows_enter : ∀ item state other,
    Knows (enter item state).2 other ↔ Knows state other ∨ other = keyOf item

/-- What becomes of a call. -/
inductive Fate where
  | answered
  | unanswered
  | dropped
deriving DecidableEq, Repr

structure Entry (ι : Type) where
  item : ι
  fate : Fate
deriving DecidableEq, Repr

namespace Register

variable {σ ι κ : Type} [DecidableEq κ] (register : Register σ ι κ)

def after (state : σ) (entry : Entry ι) : σ :=
  match entry.fate with
  | .dropped => state
  | _ => (register.enter entry.item state).2

/-- The call is told that its key is new. -/
def tellsFirst (state : σ) (entry : Entry ι) : Bool :=
  match entry.fate with
  | .answered => (register.enter entry.item state).1
  | _ => false

def run (state : σ) (entries : List (Entry ι)) : σ :=
  entries.foldl register.after state

/-- The calls of a run, each with what it is told. -/
def told (state : σ) : List (Entry ι) → List (Entry ι × Bool)
  | [] => []
  | entry :: entries =>
      (entry, register.tellsFirst state entry) ::
        told (register.after state entry) entries

/-- How many calls for a key are told that it is new. -/
def firsts (state : σ) (entries : List (Entry ι)) (key : κ) : Nat :=
  (register.told state entries).countP fun call =>
    register.keyOf call.1.item = key ∧ call.2 = true

/-- The calls for a key that take effect. -/
def effective (entries : List (Entry ι)) (key : κ) : List (Entry ι) :=
  entries.filter fun entry =>
    register.keyOf entry.item = key ∧ entry.fate ≠ .dropped

variable {register} {state : σ} {entry : Entry ι} {entries : List (Entry ι)}
  {key : κ}

omit [DecidableEq κ] in
theorem knows_after_iff :
    register.Knows (register.after state entry) key ↔
      register.Knows state key ∨
        key = register.keyOf entry.item ∧ entry.fate ≠ .dropped := by
  cases fate : entry.fate with
  | answered => simp [after, fate, register.knows_enter]
  | unanswered => simp [after, fate, register.knows_enter]
  | dropped => simp [after, fate]

theorem effective_cons_of {entry : Entry ι}
    (same : register.keyOf entry.item = key) (lands : entry.fate ≠ .dropped) :
    register.effective (entry :: entries) key =
      entry :: register.effective entries key :=
  List.filter_cons_of_pos (by simp [same, lands])

theorem effective_cons_of_not (other : ¬(register.keyOf entry.item = key ∧
    entry.fate ≠ .dropped)) :
    register.effective (entry :: entries) key = register.effective entries key :=
  List.filter_cons_of_neg (by simpa using other)

/-- A register knows what it knew and what has been entered. -/
theorem knows_run_iff :
    register.Knows (register.run state entries) key ↔
      register.Knows state key ∨ register.effective entries key ≠ [] := by
  induction entries generalizing state with
  | nil => simp [run, effective]
  | cons entry entries inductionHypothesis =>
      have split : register.run state (entry :: entries) =
          register.run (register.after state entry) entries := rfl
      rw [split, inductionHypothesis, knows_after_iff]
      by_cases here : register.keyOf entry.item = key ∧ entry.fate ≠ .dropped
      · obtain ⟨rfl, lands⟩ := here
        simp [effective_cons_of rfl lands, lands]
      · have other :
            ¬(key = register.keyOf entry.item ∧ entry.fate ≠ .dropped) :=
          fun same => here ⟨same.1.symm, same.2⟩
        simp only [effective_cons_of_not here, other, or_false]

theorem firsts_cons :
    register.firsts state (entry :: entries) key =
      register.firsts (register.after state entry) entries key +
        if register.keyOf entry.item = key ∧
            register.tellsFirst state entry = true then 1
        else 0 := by
  rw [firsts, told, List.countP_cons, firsts]
  simp only [decide_eq_true_eq]

/-- Nobody is told that a known key is new. -/
theorem firsts_of_knows (known : register.Knows state key) :
    register.firsts state entries key = 0 := by
  induction entries generalizing state with
  | nil => rfl
  | cons entry entries inductionHypothesis =>
      have silent :
          ¬(register.keyOf entry.item = key ∧
            register.tellsFirst state entry = true) := by
        rintro ⟨rfl, first⟩
        rw [tellsFirst] at first
        split at first
        · exact (register.enter_iff _ _).mp first known
        · cases first
      rw [firsts_cons, if_neg silent,
        inductionHypothesis (knows_after_iff.mpr (Or.inl known))]

/-- Who learns that a key is new is decided by the first call for it that takes
effect. -/
theorem firsts_of_not_knows (fresh : ¬register.Knows state key) :
    register.firsts state entries key =
      if (register.effective entries key).head?.map Entry.fate =
          some .answered then 1
      else 0 := by
  induction entries generalizing state with
  | nil => rfl
  | cons entry entries inductionHypothesis =>
      rw [firsts_cons]
      by_cases here : register.keyOf entry.item = key ∧ entry.fate ≠ .dropped
      case pos =>
        obtain ⟨rfl, lands⟩ := here
        rw [firsts_of_knows (knows_after_iff.mpr (Or.inr ⟨rfl, lands⟩)),
          effective_cons_of rfl lands, List.head?_cons, Option.map_some,
          Nat.zero_add]
        have first := (register.enter_iff entry.item state).mpr fresh
        cases fate : entry.fate with
        | answered => simp [tellsFirst, fate, first]
        | unanswered => simp [tellsFirst, fate]
        | dropped => exact absurd fate lands
      case neg =>
        have silent :
            ¬(register.keyOf entry.item = key ∧
            register.tellsFirst state entry = true) := by
          rintro ⟨same, first⟩
          rw [tellsFirst] at first
          split at first
          case h_1 answered =>
            exact here ⟨same, by rw [answered]; decide⟩
          case h_2 => cases first
        have stillFresh :
            ¬register.Knows (register.after state entry) key := by
          rw [knows_after_iff]
          rintro (known | ⟨same, lands⟩)
          · exact fresh known
          · exact here ⟨same.symm, lands⟩
        rw [if_neg silent, inductionHypothesis stillFresh,
          effective_cons_of_not here, Nat.add_zero]

end Register

end NetworkManager.Foundation
