import Mathlib.Data.List.Induction
import ContentBlocking.Proofs.RuleList.Repetition

/-!
# First occurrences

A list may be read by its positions: at some of them stands what has not occurred before. Leaving
out repetitions keeps what stands at these positions, in order, and nothing else.
-/

namespace ContentBlocking.RuleList

variable {α : Type} [DecidableEq α]

/-- What stands in a list at the positions before which there is nothing equal. -/
def firstOccurrences (items : List α) : List α :=
  (items.zipIdx.filter fun entry => entry.1 ∉ items.take entry.2).map Prod.fst

theorem firstOccurrences_append_singleton (items : List α) (last : α) :
    firstOccurrences (items ++ [last]) =
      firstOccurrences items ++ if last ∈ items then [] else [last] := by
  -- What stands before a position of the list is not changed by adding to its end.
  have before : items.zipIdx.filter (fun entry => entry.1 ∉ (items ++ [last]).take entry.2) =
      items.zipIdx.filter fun entry => entry.1 ∉ items.take entry.2 := by
    apply List.filter_congr
    intro entry member
    have inside : entry.2 ≤ items.length := Nat.le_of_lt (List.snd_lt_of_mem_zipIdx member)
    rw [List.take_append_of_le_length inside]
  rw [firstOccurrences, List.zipIdx_append, List.filter_append, before, List.map_append,
    ← firstOccurrences]
  by_cases repeated : last ∈ items
  · simp [repeated]
  · simp [repeated]

/-- What is left without repetitions are the first occurrences by position. -/
theorem distinct_eq_firstOccurrences (items : List α) :
    distinct items = firstOccurrences items := by
  induction items using List.reverseRecOn with
  | nil => rfl
  | append_singleton items last inductionHypothesis =>
      rw [distinct_append, firstOccurrences_append_singleton, inductionHypothesis]
      by_cases repeated : last ∈ items
      · simp [distinct, repeated]
      · simp [distinct, repeated]

end ContentBlocking.RuleList
