import ContentBlocking.Proofs.Filter.FilterSize
import ContentBlocking.Proofs.Pattern.Languages
import ContentBlocking.Proofs.Pattern.WholeBeginnings

/-!
# What an escaped text matches

Escaping a text protects its backslashes, dots and slashes. The pattern of a port number is put into
a filter before that, so all other characters keep the meaning that they have in patterns. A text
without such characters is matched as it stands, where case does not matter, and only its length can
stand against it.
-/

namespace ContentBlocking.Filter

open Text Pattern

/-- The characters with a meaning in patterns that are not protected. A square bracket or a brace
that closes has none by itself. -/
def marks : List Char := ['^', '$', '|', '(', ')', '[', '?', '*', '+', '\x7b']

/-- Somewhere in the text stands the part, where case does not matter. -/
def ContainsAlike (text part : List Char) : Prop :=
  ∃ before taken after, text = before ++ taken ++ after ∧ SameText taken part

theorem isLiteral_of_not_mem_marks {text : List Char} (unmarked : ∀ c ∈ text, c ∉ marks) :
    text.all isLiteral = true := by
  rw [List.all_eq_true]
  intro c member
  exact @isLiteral_of_property (fun c => decide (c ∉ marks)) c (by decide)
    (decide_eq_true (unmarked c member))

/-! ## Reading -/

def textTree (text : List Char) : Written := .seq (text.map .literal)

theorem ofSequence_literal (c : Char) :
    Outline.ofSequence [(Written.literal c).outline] = (Written.literal c).outline := by
  rw [Written.literal, Written.outline, Outline.ofSet]
  split <;> rfl

section Texts

variable {text : String} (literal : text.toList.all isLiteral = true)

include literal

theorem readItem?_escape :
    readItem? ⟨[], .new filterFlags false, []⟩ (escape text).toList =
      some (OpenGroup.contents ⟨filterFlags, false, [],
        (text.toList.map fun c => { tree := .literal c }).reverse⟩) := by
  have read : readItem? ⟨[], ⟨filterFlags, false, [], []⟩, []⟩ (escapeChars text.toList ++ []) = _ :=
    readItem?_escapeChars literal
  rw [List.append_nil, List.append_nil, readItem?_nil rfl] at read
  rw [escape, String.toList_ofList]
  exact read

/-- A text of fewer than two characters is not read into a sequence, but into what has the same
outline and the same pattern. -/
theorem exists_written_escape :
    ∃ tree, Written.ofChars? filterFlags (escape text).toList = some tree ∧
      tree.outline = (textTree text.toList).outline ∧
        tree.toPattern = (textTree text.toList).toPattern := by
  rw [Written.ofChars?, readItem?_escape literal]
  rcases text.toList with _ | ⟨first, _ | ⟨second, rest⟩⟩
  · exact ⟨.empty, rfl, rfl, rfl⟩
  · exact ⟨.literal first, rfl, (ofSequence_literal first).symm, rfl⟩
  · have several : 2 ≤ ((first :: second :: rest).map fun c =>
        ({ tree := .literal c } : Item)).reverse.length := by
      rw [List.length_reverse, List.length_map]
      exact Nat.le_add_left 2 rest.length
    have flat : ∀ item ∈ ((first :: second :: rest).map fun c =>
        ({ tree := .literal c } : Item)).reverse, item.depth ≤ 0 := by
      intro item member
      obtain ⟨c, _, same⟩ := List.mem_map.mp (List.mem_reverse.mp member)
      rw [← same]
    have trees : (((first :: second :: rest).map fun c =>
        ({ tree := .literal c } : Item)).reverse.reverse.map Item.tree) =
          (first :: second :: rest).map .literal := by
      rw [List.reverse_reverse, List.map_map]
      rfl
    refine ⟨textTree (first :: second :: rest), ?_, rfl, rfl⟩
    rw [contents_of_two_le several, trees]
    exact if_pos (Nat.le_trans (nestedDepth_le flat) (by decide))

/-! ## Size -/

/-- An escaped text is accepted exactly if the outline of its characters fits. -/
theorem isSome_escape_iff :
    (Pattern.ofFilter? (escape text)).isSome = true ↔ (textTree text.toList).outline.fits = true := by
  obtain ⟨tree, written, outline, _⟩ := exists_written_escape literal
  rw [isSome_iff_of_written written, outline]

theorem isSome_escape_of_length_le (short : text.length ≤ 10000) :
    (Pattern.ofFilter? (escape text)).isSome = true := by
  obtain ⟨bound, small, bounded⟩ :=
    Outline.bytesBound?_ofSequence (Written.areWithin_literals text.toList)
  rw [isSome_escape_iff literal]
  apply Outline.fits_of_isSmall
  rw [textTree, Written.outline, Written.outlines_eq_map, Outline.isSmall, bounded]
  refine decide_eq_true ?_
  rw [String.length_toList] at small
  rw [Machine.sizeLimit]
  omega

/-- Neither a table nor a search for texts decides about a long text, and its machines are too
large. -/
theorem ofFilter?_escape_eq_none (long : 327680 ≤ text.length) :
    Pattern.ofFilter? (escape text) = none := by
  have bytes := Written.le_sum_leastBytes_literals text.toList
  have large : Machine.sizeLimit ≤ (textTree text.toList).outline.leastBytes := by
    rw [textTree, Written.outline, Written.outlines_eq_map, Outline.leastBytes_ofSequence,
      Outline.eachLeastBytes_eq_map, Machine.sizeLimit]
    rw [String.length_toList] at bytes
    omega
  have noTable : (textTree text.toList).outline.isTable = false := by
    cases shape : (textTree text.toList).outline with
    | choice alternatives =>
        rw [shape, Outline.leastBytes, Machine.sizeLimit] at large
        omega
    | _ => rfl
  have noTexts : (textTree text.toList).outline.isFoundByTexts = false := by
    apply Outline.isFoundByTexts_eq_false
    exact Nat.lt_of_lt_of_le (by decide) large
  have refused : ¬ (Pattern.ofFilter? (escape text)).isSome = true := by
    rw [isSome_escape_iff literal, Outline.fits, noTable, noTexts, Outline.hasSmallMachines,
      Outline.isTooLarge_machine large .forward]
    exact Bool.false_ne_true
  exact Option.not_isSome_iff_eq_none.mp refused

/-! ## Meaning -/

/-- An accepted escaped text matches the URLs that contain the text, where case does not matter. -/
theorem matches_escape_iff (accepted : (Pattern.ofFilter? (escape text)).isSome = true)
    {url : String} :
    Matches (escape text) url ↔ ContainsAlike url.toList text.toList := by
  obtain ⟨tree, written, outline, pattern⟩ := exists_written_escape literal
  have described : (textTree text.toList).toPattern.Describes (anyCase text.toList) := by
    have characters := Written.describes_literals text.toList
    rwa [← Written.toPatterns_eq_map] at characters
  rw [matches_iff_of_fits written ((isSome_iff_of_written written).mp accepted), pattern]
  constructor
  · intro ⟨before, taken, after, whole, spans⟩
    exact ⟨before, taken, after, whole, (described before taken after).mp spans⟩
  · intro ⟨before, taken, after, whole, same⟩
    exact ⟨before, taken, after, whole, (described before taken after).mpr same⟩

end Texts

/-- Of a text without marks the pattern is refused if it does not fit, which depends on its length,
and otherwise it matches what contains the text. -/
theorem escape_language {text : String} (unmarked : ∀ c ∈ text.toList, c ∉ marks) :
    ((Pattern.ofFilter? (escape text)).isSome = true ↔
        (textTree text.toList).outline.fits = true) ∧
      (text.length ≤ 10000 → (Pattern.ofFilter? (escape text)).isSome = true) ∧
      (327680 ≤ text.length → Pattern.ofFilter? (escape text) = none) ∧
      ((Pattern.ofFilter? (escape text)).isSome = true → ∀ url,
        Matches (escape text) url ↔ ContainsAlike url.toList text.toList) := by
  have literal := isLiteral_of_not_mem_marks unmarked
  refine ⟨isSome_escape_iff literal, isSome_escape_of_length_le literal,
    ofFilter?_escape_eq_none literal, ?_⟩
  intro accepted url
  exact matches_escape_iff literal accepted

theorem escape_language_path :
    (∀ c ∈ "a.\x7d/]".toList, c ∉ marks) ∧
      (Pattern.ofFilter? (escape "a.\x7d/]")).isSome = true ∧
      Matches (escape "a.\x7d/]") "x A.\x7d/] y" := by
  have checked : ("a.\x7d/]".toList.all fun c => c ∉ marks) = true := by
    decide
  have unmarked : ∀ c ∈ "a.\x7d/]".toList, c ∉ marks := by
    intro c member
    exact of_decide_eq_true (List.all_eq_true.mp checked c member)
  obtain ⟨_, short, _, language⟩ := escape_language unmarked
  have accepted := short (by decide)
  refine ⟨unmarked, accepted, (language accepted _).mpr ?_⟩
  exact ⟨"x ".toList, "A.\x7d/]".toList, " y".toList, rfl, by decide⟩

theorem ContainsAlike.length_le {text part : List Char} (contained : ContainsAlike text part) :
    part.length ≤ text.length := by
  obtain ⟨before, taken, after, whole, same⟩ := contained
  have lengths := congrArg List.length same
  rw [List.length_map, List.length_map] at lengths
  rw [whole, List.length_append, List.length_append]
  omega

/-- A group is never closed, a question mark makes a character optional, and there may be too many
letters. -/
theorem escape_not_literal :
    Pattern.ofFilter? (escape "(") = none ∧
      (Matches (escape "a?b") "b" ∧ ¬ ContainsAlike "b".toList "a?b".toList) ∧
      Pattern.ofFilter? (escape (letters 327680)) = none := by
  refine ⟨?_, ⟨?_, ?_⟩, ?_⟩
  · decide +kernel
  · decide +kernel
  · intro contained
    exact absurd contained.length_le (by decide)
  · have unmarked : ∀ c ∈ (letters 327680).toList, c ∉ marks := by
      intro c member
      rw [eq_of_mem_letters member]
      decide
    exact ofFilter?_escape_eq_none (isLiteral_of_not_mem_marks unmarked)
      (Nat.le_of_eq (length_letters 327680).symm)

end ContentBlocking.Filter
