import Mathlib.Data.List.Basic

/-!
# Gates in a trace

A law over the past of a trace: once something has opened a gate, nothing
enters before something has closed it.  What opens a gate may depend on what
came before it.
-/

namespace NetworkManager.Foundation

variable {α : Type} {opens opensElse : List α → α → Prop}
  {closes enters : α → Prop} {trace : List α} {last : α}

/-- Something has opened a gate, and nothing has closed it since. -/
def Open (opens : List α → α → Prop) (closes : α → Prop)
    (trace : List α) : Prop :=
  ∃ earlier gate later, trace = earlier ++ gate :: later ∧
    opens earlier gate ∧ ∀ event ∈ later, ¬closes event

/-- Between the opening of a gate and an entry there is a closing. -/
def Gated (opens : List α → α → Prop) (closes enters : α → Prop)
    (trace : List α) : Prop :=
  ∀ earlier gate between entering later,
    trace = earlier ++ gate :: (between ++ entering :: later) →
    opens earlier gate → enters entering → ∃ event ∈ between, closes event

theorem not_open_nil : ¬Open opens closes [] := by
  rintro ⟨earlier, gate, later, split, _⟩
  simp at split

theorem gated_nil : Gated opens closes enters [] := by
  intro earlier gate between entering later split
  simp at split

/-- A gate is open after an event that opens one, or does not close it. -/
theorem open_append_singleton :
    Open opens closes (trace ++ [last]) ↔
      opens trace last ∨ (Open opens closes trace ∧ ¬closes last) := by
  constructor
  · rintro ⟨earlier, gate, later, split, isGate, noClosing⟩
    rcases List.eq_nil_or_concat' later with rfl | ⟨before, final, rfl⟩
    · have same := List.append_inj' split rfl
      rw [List.cons.injEq] at same
      rw [same.1, same.2.1]
      exact Or.inl isGate
    · rw [← List.cons_append, ← List.append_assoc] at split
      have same := List.append_inj' split rfl
      rw [List.cons.injEq] at same
      right
      constructor
      · exact ⟨earlier, gate, before, same.1, isGate, fun event member =>
          noClosing event (List.mem_append_left _ member)⟩
      · rw [same.2.1]
        exact noClosing final (by simp)
  · rintro (isGate | ⟨⟨earlier, gate, later, rfl, isGate, noClosing⟩, stays⟩)
    · exact ⟨trace, last, [], rfl, isGate, by simp⟩
    · refine ⟨earlier, gate, later ++ [last], by simp, isGate, ?_⟩
      intro event member
      rcases List.mem_append.mp member with old | new
      · exact noClosing event old
      · rw [List.mem_singleton.mp new]
        exact stays

/-- The law asks of the next event that it does not enter by an open gate. -/
theorem gated_append_singleton :
    Gated opens closes enters (trace ++ [last]) ↔
      Gated opens closes enters trace ∧
        (enters last → ¬Open opens closes trace) := by
  constructor
  · intro gated
    constructor
    · rintro earlier gate between entering later rfl isGate enter
      exact gated earlier gate between entering (later ++ [last]) (by simp)
        isGate enter
    · rintro enter ⟨earlier, gate, between, rfl, isGate, noClosing⟩
      rcases gated earlier gate between last [] (by simp) isGate enter with
        ⟨event, member, closing⟩
      exact noClosing event member closing
  · rintro ⟨gated, notOpen⟩ earlier gate between entering later split isGate
      enter
    rcases List.eq_nil_or_concat' later with rfl | ⟨before, final, rfl⟩
    · rw [← List.cons_append, ← List.append_assoc] at split
      have same := List.append_inj' split rfl
      rw [List.cons.injEq] at same
      have isLast := same.2.1
      subst isLast
      by_contra noClosing
      apply notOpen enter
      refine ⟨earlier, gate, between, same.1, isGate, ?_⟩
      intro event member closing
      exact noClosing ⟨event, member, closing⟩
    · have split : trace ++ [last] =
          (earlier ++ gate :: (between ++ entering :: before)) ++ [final] := by
        simpa using split
      exact gated earlier gate between entering before
        (List.append_inj' split rfl).1 isGate enter

/-- A gate of two kinds is open when one of either kind is. -/
theorem open_or :
    Open (fun earlier gate => opens earlier gate ∨ opensElse earlier gate)
        closes trace ↔
      Open opens closes trace ∨ Open opensElse closes trace := by
  constructor
  · rintro ⟨earlier, gate, later, split, isGate | isGate, noClosing⟩
    · exact Or.inl ⟨earlier, gate, later, split, isGate, noClosing⟩
    · exact Or.inr ⟨earlier, gate, later, split, isGate, noClosing⟩
  · rintro (⟨earlier, gate, later, split, isGate, noClosing⟩ |
      ⟨earlier, gate, later, split, isGate, noClosing⟩)
    · exact ⟨earlier, gate, later, split, Or.inl isGate, noClosing⟩
    · exact ⟨earlier, gate, later, split, Or.inr isGate, noClosing⟩

end NetworkManager.Foundation
