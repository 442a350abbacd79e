import ContentBlocking.Proofs.Filter.DomainTree
import ContentBlocking.Proofs.Pattern.SequenceBytes

/-!
# Filters that are refused for their size

A filter that begins like those for domains is bound to the start of a text and has groups, so
neither a table nor a search for texts decides it: it is refused if one of its machines is too
large. What stands behind the start says whether that may be so and whether it must be so.
-/

namespace ContentBlocking.Filter

open Text Pattern

variable {trees : List Written} {bytes : Nat}

theorem outlines_start (trees : List Written) :
    (Written.seq (startItems.map Item.tree ++ trees)).outline =
      .ofSequence ((startItems.map Item.tree).map Written.outline ++ trees.map Written.outline) := by
  rw [Written.outline, Written.outlines_eq_map, List.map_append]

/-- There is no other way to search for what the filter describes than by machines. -/
theorem fits_iff_hasSmallMachines (trees : List Written) :
    (Written.seq (startItems.map Item.tree ++ trees)).outline.fits = true ↔
      (Written.seq (startItems.map Item.tree ++ trees)).outline.hasSmallMachines = true := by
  have bound : ∃ parts, (Written.seq (startItems.map Item.tree ++ trees)).outline =
      .seq (.look .textStart :: parts) := ⟨_, rfl⟩
  obtain ⟨parts, shape⟩ := bound
  have noTable : (Outline.seq (.look .textStart :: parts)).isTable = false := rfl
  have noTexts : (Outline.seq (.look .textStart :: parts)).isFoundByTexts = false := rfl
  rw [shape, Outline.fits, noTable, noTexts, Bool.false_or, Bool.false_or]

section Written

variable {filter : String}
  (written : Written.ofChars? filterFlags filter.toList =
    some (.seq (startItems.map Item.tree ++ trees)))

include written

/-- A filter with the usual start is accepted exactly if its machines are small enough. -/
theorem isSome_iff_hasSmallMachines :
    (Pattern.ofFilter? filter).isSome = true ↔
      (Written.seq (startItems.map Item.tree ++ trees)).outline.hasSmallMachines = true := by
  rw [isSome_iff_of_written written]
  exact fits_iff_hasSmallMachines trees

/-- The start takes few bytes, so a filter with little behind it is not refused. -/
theorem isSome_of_areWithin (within : Outline.areWithin (trees.map Written.outline) bytes = true)
    (few : bytes ≤ 10480000) :
    (Pattern.ofFilter? filter).isSome = true := by
  have start : Outline.areWithin ((startItems.map Item.tree).map Written.outline) 4000 = true := by
    decide +kernel
  obtain ⟨bound, small, bounded⟩ :=
    Outline.bytesBound?_ofSequence (Outline.areWithin_append start within)
  rw [isSome_iff_of_written written]
  apply Outline.fits_of_isSmall
  rw [outlines_start, Outline.isSmall, bounded]
  refine decide_eq_true ?_
  rw [Machine.sizeLimit]
  omega

/-- A filter whose parts take too many bytes by themselves is refused. -/
theorem ofFilter?_eq_none
    (many : Machine.sizeLimit ≤ ((trees.map Written.outline).map Outline.leastBytes).sum) :
    Pattern.ofFilter? filter = none := by
  have large : Machine.sizeLimit ≤
      (Written.seq (startItems.map Item.tree ++ trees)).outline.leastBytes := by
    rw [outlines_start, Outline.leastBytes_ofSequence, Outline.eachLeastBytes_eq_map,
      List.map_append, List.sum_append]
    omega
  have refused : ¬ (Pattern.ofFilter? filter).isSome = true := by
    rw [isSome_iff_hasSmallMachines written, Outline.hasSmallMachines,
      Outline.isTooLarge_machine large .forward]
    exact Bool.false_ne_true
  exact Option.not_isSome_iff_eq_none.mp refused

end Written

def letters (count : Nat) : String := String.ofList (List.replicate count 'a')

theorem eq_of_mem_letters {count : Nat} {c : Char} (member : c ∈ (letters count).toList) :
    c = 'a' := by
  rw [letters, String.toList_ofList] at member
  exact List.eq_of_mem_replicate member

theorem length_letters (count : Nat) : (letters count).length = count := by
  rw [← String.length_toList, letters, String.toList_ofList, List.length_replicate]

end ContentBlocking.Filter
