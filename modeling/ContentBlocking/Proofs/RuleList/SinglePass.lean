import Mathlib.Data.Finset.Insert
import ContentBlocking.Proofs.RuleList.FirstOccurrences

/-!
# One pass with a memory

Repetitions can be left out in one pass that remembers what it has seen. Whatever it remembers from
before, it keeps what is new of the first occurrences, and each member of the list is either kept or
counted as a repetition.
-/

namespace ContentBlocking.RuleList

/-- What a pass has seen, what it has kept, and how many members it has left out. -/
structure Sieve (α : Type) where
  seen : Finset α
  kept : List α
  removed : Nat

section Pass

variable {α : Type} [DecidableEq α]

namespace Sieve

def start : Sieve α := ⟨∅, [], 0⟩

/-- The pass after one more member, which is kept unless it has been seen. -/
def next (sieve : Sieve α) (item : α) : Sieve α :=
  if item ∈ sieve.seen then { sieve with removed := sieve.removed + 1 }
  else { sieve with seen := insert item sieve.seen, kept := sieve.kept ++ [item] }

def run (sieve : Sieve α) (items : List α) : Sieve α := items.foldl next sieve

theorem run_cons (sieve : Sieve α) (first : α) (rest : List α) :
    sieve.run (first :: rest) = (sieve.next first).run rest := rfl

/-- The members of a list that a pass keeps after what it has seen. -/
def fresh (seen : Finset α) (items : List α) : List α :=
  (distinct items).filter fun item => item ∉ seen

theorem fresh_cons (seen : Finset α) (first : α) (rest : List α) :
    fresh seen (first :: rest) =
      if first ∈ seen then fresh seen rest else first :: fresh (insert first seen) rest := by
  by_cases known : first ∈ seen
  · have implied : ∀ other ∈ distinct rest,
        (decide (other ∉ seen) && decide (other ≠ first)) = decide (other ∉ seen) := by
      intro other _
      by_cases same : other = first
      · simp [same, known]
      · simp [same]
    rw [if_pos known, fresh, distinct, List.filter_cons_of_neg (by simpa using known),
      List.filter_filter, List.filter_congr implied, fresh]
  · have joined : ∀ other ∈ distinct rest,
        (decide (other ∉ seen) && decide (other ≠ first)) = decide (other ∉ insert first seen) := by
      intro other _
      simp [Finset.mem_insert, not_or, Bool.and_comm]
    rw [if_neg known, fresh, distinct, List.filter_cons_of_pos (by simpa using known),
      List.filter_filter, List.filter_congr joined, fresh]

/-! ## What a run keeps and what it counts -/

/-- A pass keeps what it has kept, and then the members that are new to it. -/
theorem kept_run (sieve : Sieve α) (items : List α) :
    (sieve.run items).kept = sieve.kept ++ fresh sieve.seen items := by
  -- The memory grows along the pass, so the statement is about every memory.
  induction items generalizing sieve with
  | nil => simp [run, fresh, distinct]
  | cons first rest inductionHypothesis =>
      rw [run_cons, inductionHypothesis, fresh_cons]
      by_cases known : first ∈ sieve.seen
      · simp [next, known]
      · simp [next, known]

theorem length_kept_add_removed_next (sieve : Sieve α) (item : α) :
    (sieve.next item).kept.length + (sieve.next item).removed =
      sieve.kept.length + sieve.removed + 1 := by
  by_cases known : item ∈ sieve.seen
  · simp [next, known, Nat.add_assoc]
  · simp [next, known, Nat.add_right_comm]

/-- A pass keeps each member or counts it as left out. -/
theorem length_kept_add_removed_run (sieve : Sieve α) (items : List α) :
    (sieve.run items).kept.length + (sieve.run items).removed =
      sieve.kept.length + sieve.removed + items.length := by
  induction items generalizing sieve with
  | nil => rfl
  | cons first rest inductionHypothesis =>
      rw [run_cons, inductionHypothesis, length_kept_add_removed_next, List.length_cons]
      omega

/-- A single pass keeps the list without its repetitions. -/
theorem kept_run_start (items : List α) : (start.run items).kept = distinct items := by
  rw [kept_run]
  simp [start, fresh]

theorem length_distinct_add_removed (items : List α) :
    (distinct items).length + (start.run items).removed = items.length := by
  have counted := length_kept_add_removed_run start items
  rw [kept_run_start] at counted
  rw [counted]
  exact Nat.zero_add items.length

end Sieve

/-- A single pass counts the repetitions. -/
theorem removed_run_start (items : List α) :
    (Sieve.start.run items).removed = repetitions items := by
  have counted := Sieve.length_distinct_add_removed items
  rw [repetitions]
  omega

theorem distinct_sublist (items : List α) : (distinct items).Sublist items := by
  have kept := (List.filter_sublist (l := items.zipIdx)
    (p := fun entry => entry.1 ∉ items.take entry.2)).map Prod.fst
  rwa [List.zipIdx_map_fst, ← firstOccurrences, ← distinct_eq_firstOccurrences] at kept

end Pass

/-- Of equal rules the first is kept and nothing else is left out, in the order of the list. That is
what one pass with a memory keeps, and how many rules it leaves out. A second time nothing is left
out, and of two lists in a row the second loses what is in the first. -/
theorem distinct_keeps_first (rules : List Rule) :
    (distinct rules).Nodup ∧
      (∀ rule, rule ∈ distinct rules ↔ rule ∈ rules) ∧
      distinct rules = firstOccurrences rules ∧
      (distinct rules).Sublist rules ∧
      (Sieve.start.run rules).kept = distinct rules ∧
      (Sieve.start.run rules).removed = repetitions rules ∧
      (distinct rules).length + repetitions rules = rules.length ∧
      distinct (distinct rules) = distinct rules ∧
      ∀ late, distinct (rules ++ late) =
        distinct rules ++ (distinct late).filter fun rule => rule ∉ rules := by
  have counted := Sieve.length_distinct_add_removed rules
  rw [removed_run_start] at counted
  exact ⟨nodup_distinct rules, fun _ => mem_distinct, distinct_eq_firstOccurrences rules,
    distinct_sublist rules, Sieve.kept_run_start rules, removed_run_start rules, counted,
    distinct_eq_self (nodup_distinct rules), distinct_append rules⟩

end ContentBlocking.RuleList
