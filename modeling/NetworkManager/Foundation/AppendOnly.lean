import Mathlib.Data.List.Basic
import Mathlib.Data.List.Induction

/-!
# Records that are only appended to

A feed lists the values that the keys of a table have taken, in order.  Whoever
replays it has the table: each key with the last of its values.  A history of
one key is also a list of steps, each from what the one before has left.

Each payload of a hash chain is hashed together with the hash before it.  Where
the message that is hashed tells both apart, and no two of the messages
collide, the last hash determines the whole chain.
-/

namespace NetworkManager.Foundation

section Feeds

variable {κ α : Type} [DecidableEq κ]

/-- Write each value under its key, over the one before. -/
def replay (feed : List (κ × α)) : κ → Option α :=
  feed.foldl (fun table entry => Function.update table entry.1 (some entry.2))
    fun _ => none

/-- The values of one key, in order. -/
def valuesOf (feed : List (κ × α)) (key : κ) : List α :=
  (feed.filter fun entry => entry.1 = key).map Prod.snd

theorem replay_append_singleton (feed : List (κ × α)) (entry : κ × α) :
    replay (feed ++ [entry]) =
      Function.update (replay feed) entry.1 (some entry.2) := by
  rw [replay, List.foldl_append]
  rfl

theorem valuesOf_append (first rest : List (κ × α)) (key : κ) :
    valuesOf (first ++ rest) key = valuesOf first key ++ valuesOf rest key := by
  rw [valuesOf, List.filter_append, List.map_append]
  rfl

theorem valuesOf_singleton (entry : κ × α) (key : κ) :
    valuesOf [entry] key = if entry.1 = key then [entry.2] else [] := by
  by_cases same : entry.1 = key
  · simp [valuesOf, same]
  · simp [valuesOf, same]

/-- A replayed feed holds the last value of each key. -/
theorem replay_eq_getLast? (feed : List (κ × α)) (key : κ) :
    replay feed key = (valuesOf feed key).getLast? := by
  induction feed using List.reverseRecOn with
  | nil => rfl
  | append_singleton earlier entry inductionHypothesis =>
      rw [replay_append_singleton, valuesOf_append, valuesOf_singleton]
      by_cases same : entry.1 = key
      · rw [if_pos same, ← same, Function.update_self, List.getLast?_concat]
      · rw [if_neg same, List.append_nil, ← inductionHypothesis]
        exact Function.update_of_ne (Ne.symm same) _ _

end Feeds

section Steps

variable {α β : Type}

/-- The steps of a history, each with the value before it. -/
def stepsFrom (before : Option α) : List α → List (Option α × α)
  | [] => []
  | value :: rest => (before, value) :: stepsFrom (some value) rest

theorem stepsFrom_append_singleton (before : Option α) (history : List α)
    (value : α) :
    stepsFrom before (history ++ [value]) =
      stepsFrom before history ++ [(history.getLast?.or before, value)] := by
  induction history generalizing before with
  | nil => rfl
  | cons first rest inductionHypothesis =>
      rw [List.cons_append, stepsFrom, inductionHypothesis, stepsFrom,
        List.cons_append]
      cases rest with
      | nil => rfl
      | cons second others =>
          rw [List.getLast?_cons_cons, List.getLast?_cons,
            Option.some_or, Option.some_or]

/-- The steps from nothing. -/
def steps (history : List α) : List (Option α × α) := stepsFrom none history

theorem steps_append_singleton (history : List α) (value : α) :
    steps (history ++ [value]) =
      steps history ++ [(history.getLast?, value)] := by
  rw [steps, stepsFrom_append_singleton, Option.or_none]
  rfl

end Steps

namespace HashChain

variable {π δ μ : Type} (message : Option δ → π → μ) (hash : μ → δ)

/-- The last hash of a chain that continues from a hash, if there is one. -/
def head (previous : Option δ) (payloads : List π) : Option δ :=
  payloads.foldl (fun before payload => some (hash (message before payload)))
    previous

/-- The messages that are hashed along the chain. -/
def messages : Option δ → List π → List μ
  | _, [] => []
  | previous, payload :: rest =>
      message previous payload ::
        messages (some (hash (message previous payload))) rest

variable {message hash}

theorem head_append_singleton (previous : Option δ) (payloads : List π)
    (last : π) :
    head message hash previous (payloads ++ [last]) =
      some (hash (message (head message hash previous payloads) last)) := by
  rw [head, head, List.foldl_append]
  rfl

theorem messages_append_singleton (previous : Option δ) (payloads : List π)
    (last : π) :
    messages message hash previous (payloads ++ [last]) =
      messages message hash previous payloads ++
        [message (head message hash previous payloads) last] := by
  induction payloads generalizing previous with
  | nil => rfl
  | cons payload rest inductionHypothesis =>
      rw [List.cons_append, messages, inductionHypothesis]
      rfl

/-- Chains with the same head are the same, unless two of their messages
collide or a message can be read in two ways. -/
theorem eq_of_head_eq {left right : List π}
    (unambiguous : ∀ first ∈ left, ∀ second ∈ right, ∀ before after,
      message before first = message after second →
        before = after ∧ first = second)
    (noCollision : ∀ first ∈ messages message hash none left,
      ∀ second ∈ messages message hash none right,
        hash first = hash second → first = second)
    (sameHead : head message hash none left = head message hash none right) :
    left = right := by
  induction left using List.reverseRecOn generalizing right with
  | nil =>
      rcases List.eq_nil_or_concat' right with rfl | ⟨initial, last, rfl⟩
      · rfl
      · rw [head_append_singleton] at sameHead
        cases sameHead
  | append_singleton leftInitial leftLast inductionHypothesis =>
      rcases List.eq_nil_or_concat' right with rfl | ⟨rightInitial, rightLast, rfl⟩
      · rw [head_append_singleton] at sameHead
        cases sameHead
      · rw [head_append_singleton, head_append_singleton,
          Option.some.injEq] at sameHead
        simp only [messages_append_singleton, List.mem_append,
          List.mem_singleton] at noCollision
        have sameMessage := noCollision _ (Or.inr rfl) _ (Or.inr rfl) sameHead
        rcases unambiguous leftLast (by simp) rightLast (by simp) _ _
          sameMessage with ⟨sameBefore, sameLast⟩
        have sameInitial : leftInitial = rightInitial := by
          apply inductionHypothesis _ _ sameBefore
          · intro first isFirst second isSecond
            exact unambiguous first (List.mem_append_left _ isFirst) second
              (List.mem_append_left _ isSecond)
          · intro first isFirst second isSecond
            exact noCollision first (Or.inl isFirst) second (Or.inl isSecond)
        rw [sameInitial, sameLast]

end HashChain

end NetworkManager.Foundation
