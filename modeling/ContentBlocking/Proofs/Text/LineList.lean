import Mathlib.Data.List.DropRight
import Mathlib.Data.List.TakeWhile
import ContentBlocking.Text.LineList

/-!
# Texts with an entry on each line

An entry of a line list is not empty, stands on one line, and neither begins nor ends with a blank.
A newline always ends an entry, so the parts of a text on its two sides can be read one after the
other. Whether there is a carriage return in front of it does not matter, since that is a blank.
-/

namespace ContentBlocking.Text

variable {text line entry ending : List Char}

/-- That a text can be an entry of a line list. -/
structure IsEntry (entry : List Char) : Prop where
  filled : entry ≠ []
  oneLine : '\n' ∉ entry
  beginning : ∀ c ∈ entry.head?, isBlank c = false
  ending : ∀ c ∈ entry.getLast?, isBlank c = false

instance (entry : List Char) : Decidable (IsEntry entry) :=
  decidable_of_iff
    ((entry ≠ [] ∧ '\n' ∉ entry) ∧
      (entry.head?.all fun c => !isBlank c) = true ∧
        (entry.getLast?.all fun c => !isBlank c) = true) <| by
    simp only [Option.all_eq_true, Bool.not_eq_true', ← Option.mem_def]
    constructor
    · intro ⟨⟨filled, oneLine⟩, beginning, ending⟩
      exact ⟨filled, oneLine, beginning, ending⟩
    · intro isEntry
      exact ⟨⟨isEntry.filled, isEntry.oneLine⟩, isEntry.beginning, isEntry.ending⟩

/-! ## Trimming -/

theorem trim_eq_rdropWhile (text : List Char) :
    trim text = (text.dropWhile isBlank).rdropWhile isBlank := rfl

theorem trim_isInfix (text : List Char) : trim text <:+: text :=
  (List.rdropWhile_prefix isBlank _).isInfix.trans (List.dropWhile_suffix isBlank).isInfix

theorem isBlank_head_trim {c : Char} (first : c ∈ (trim text).head?) : isBlank c = false := by
  have behind : c ∈ (text.dropWhile isBlank).head? := by
    obtain ⟨blanks, whole⟩ := List.rdropWhile_prefix isBlank (text.dropWhile isBlank)
    rw [← trim_eq_rdropWhile] at whole
    rw [← whole, List.head?_append, Option.mem_def, Option.or_eq_some_iff]
    exact Or.inl first
  have notBlank := List.head?_dropWhile_not isBlank text
  rw [Option.mem_def.mp behind] at notBlank
  exact notBlank

theorem isBlank_getLast_trim {c : Char} (last : c ∈ (trim text).getLast?) : isBlank c = false := by
  obtain ⟨present, same⟩ := List.mem_getLast?_eq_getLast last
  have notBlank := List.rdropWhile_last_not isBlank (text.dropWhile isBlank) present
  rw [same]
  exact eq_false_of_ne_true notBlank

/-- Blanks at the end of a text are trimmed. -/
theorem trim_append_blanks (blank : ending.all isBlank = true) (text : List Char) :
    trim (text ++ ending) = trim text := by
  rw [List.all_eq_true] at blank
  rw [trim_eq_rdropWhile, trim_eq_rdropWhile, List.dropWhile_append]
  split
  · rename_i nothing
    rw [List.isEmpty_iff.mp nothing, List.dropWhile_eq_nil_iff.mpr blank]
  · rw [List.rdropWhile, List.reverse_append,
      List.dropWhile_append_of_pos (fun c member => blank c (List.mem_reverse.mp member)),
      List.rdropWhile]

theorem IsEntry.trim_eq_self (isEntry : IsEntry entry) : trim entry = entry := by
  have noneBefore : entry.dropWhile isBlank = entry := by
    cases entry with
    | nil => rfl
    | cons first rest =>
        rw [List.dropWhile_cons_of_neg]
        simp [isEntry.beginning first rfl]
  rw [trim_eq_rdropWhile, noneBefore, List.rdropWhile_eq_self_iff]
  intro present
  simp [isEntry.ending _ (List.getLast?_eq_some_getLast present)]

/-! ## Lines -/

theorem isEntry_of_mem_line (single : '\n' ∉ line) (member : entry ∈ lineEntries line) :
    IsEntry entry := by
  rw [lineEntries_of_line single] at member
  split at member
  · cases member
  · rename_i present
    rw [List.mem_singleton.mp member]
    exact
      { filled := present
        oneLine := fun inside => single ((trim_isInfix line).subset inside)
        beginning := fun _ => isBlank_head_trim
        ending := fun _ => isBlank_getLast_trim }

/-- What is read from a line list can be an entry. -/
theorem isEntry_of_mem_lineEntries (member : entry ∈ lineEntries text) : IsEntry entry := by
  induction text using line_induction with
  | line line single => exact isEntry_of_mem_line single member
  | newline line rest single inductionHypothesis =>
      rw [lineEntries_append, List.mem_append] at member
      rcases member with inLine | inRest
      · exact isEntry_of_mem_line single inLine
      · exact inductionHypothesis inRest

/-! ## Ends of lines -/

/-- The carriage return of a line end is trimmed like any other blank. -/
theorem trim_withoutReturn (line : List Char) : trim (withoutReturn line) = trim line := by
  rw [withoutReturn]
  split
  · rename_i returned
    obtain ⟨before, rfl⟩ := List.getLast?_eq_some_iff.mp returned
    rw [List.dropLast_concat, trim_append_blanks (by decide)]
  · rfl

/-- The entries are what is left of the lines when their blanks are trimmed. -/
theorem lineEntries_eq_lines (text : List Char) :
    lineEntries text = ((lines text).map trim).filter fun entry => !entry.isEmpty := by
  induction text using line_induction with
  | line line single =>
      rw [lineEntries_of_line single, lines_of_line single]
      cases line with
      | nil => rfl
      | cons first rest =>
          rw [if_neg (List.cons_ne_nil first rest), List.map_singleton]
          cases trim (first :: rest) <;> rfl
  | newline line rest single inductionHypothesis =>
      rw [lineEntries_append, lineEntries_of_line single, lines_append single, List.map_cons,
        trim_withoutReturn, inductionHypothesis]
      cases trim line <;> rfl

/-! ## Entries in lines -/

section Entries

variable (blank : ending.all isBlank = true) (single : '\n' ∉ ending)

include blank single

theorem lineEntries_entry_append (isEntry : IsEntry entry) :
    lineEntries (entry ++ ending) = [entry] := by
  have oneLine : '\n' ∉ entry ++ ending := by
    rw [List.mem_append, not_or]
    exact ⟨isEntry.oneLine, single⟩
  rw [lineEntries_of_line oneLine, trim_append_blanks blank, isEntry.trim_eq_self,
    if_neg isEntry.filled]

/-- Entries that are put on lines are read again, whatever blanks the lines are ended with. -/
theorem lineEntries_intercalate {entries : List (List Char)}
    (areEntries : ∀ entry ∈ entries, IsEntry entry) :
    lineEntries ((ending ++ ['\n']).intercalate entries) = entries := by
  induction entries with
  | nil => rfl
  | cons first rest inductionHypothesis =>
      rw [List.forall_mem_cons] at areEntries
      cases rest with
      | nil =>
          have alone : lineEntries (first ++ []) = [first] :=
            lineEntries_entry_append rfl List.not_mem_nil areEntries.1
          rw [List.append_nil] at alone
          rw [List.intercalate_singleton, alone]
      | cons second others =>
          rw [List.intercalate_cons_cons, ← List.append_assoc, List.append_assoc,
            List.singleton_append, lineEntries_append,
            lineEntries_entry_append blank single areEntries.1, inductionHypothesis areEntries.2]
          rfl

end Entries

/-! ## Texts as strings -/

theorem toList_of_mem_lineList {text entry : String} (member : entry ∈ lineList text) :
    entry.toList ∈ lineEntries text.toList := by
  obtain ⟨characters, listed, rfl⟩ := List.mem_map.mp member
  rwa [String.toList_ofList]

theorem lineList_append (before behind : String) :
    lineList (before ++ "\n" ++ behind) = lineList before ++ lineList behind := by
  have whole : (before ++ "\n" ++ behind).toList = before.toList ++ '\n' :: behind.toList := by
    simp
  rw [lineList, whole, lineEntries_append, List.map_append, lineList, lineList]

/-- Entries that are joined by line ends are read back. -/
theorem lineList_intercalate {ending lineEnd : String} {entries : List String}
    (ended : lineEnd.toList = ending.toList ++ ['\n'])
    (blank : ending.toList.all isBlank = true) (single : '\n' ∉ ending.toList)
    (areEntries : ∀ entry ∈ entries, IsEntry entry.toList) :
    lineList (lineEnd.intercalate entries) = entries := by
  have areLists : ∀ entry ∈ entries.map String.toList, IsEntry entry := by
    simpa using areEntries
  have unchanged : String.ofList ∘ String.toList = id := funext fun _ => String.ofList_toList
  rw [lineList, String.toList_intercalate, ended, lineEntries_intercalate blank single areLists,
    List.map_map, unchanged, List.map_id]

/-- What is read from the lines of a text are entries. The parts of a text on the two sides of a
newline are read one after the other, and entries that are put on lines are read again, whichever of
the two conventions their ends follow. -/
theorem lineList_reads_entries :
    (∀ text, lineEntries text = ((lines text).map trim).filter fun entry => !entry.isEmpty) ∧
      (∀ text, ∀ entry ∈ lineList text, IsEntry entry.toList) ∧
      (∀ before behind,
        lineList (before ++ "\n" ++ behind) = lineList before ++ lineList behind) ∧
      ∀ entries : List String, (∀ entry ∈ entries, IsEntry entry.toList) →
        lineList ("\n".intercalate entries) = entries ∧
          lineList ("\r\n".intercalate entries) = entries := by
  refine ⟨lineEntries_eq_lines, ?_, lineList_append, ?_⟩
  · intro text entry member
    exact isEntry_of_mem_lineEntries (toList_of_mem_lineList member)
  · intro entries areEntries
    have newline : "\n".toList = "".toList ++ ['\n'] := rfl
    have both : "\r\n".toList = "\r".toList ++ ['\n'] := rfl
    exact ⟨lineList_intercalate newline (by decide) (by decide) areEntries,
      lineList_intercalate both (by decide) (by decide) areEntries⟩

theorem lineList_loneReturn :
    (∀ entry ∈ ["shop.com", "a\rb c"], IsEntry entry.toList) ∧
      "\r\n".intercalate ["shop.com", "a\rb c"] = "shop.com\r\na\rb c" ∧
      lineList "shop.com\r\na\rb c" = ["shop.com", "a\rb c"] := by
  have areEntries : ∀ entry ∈ ["shop.com", "a\rb c"], IsEntry entry.toList := by decide
  have joined : "\r\n".intercalate ["shop.com", "a\rb c"] = "shop.com\r\na\rb c" := by decide
  have read := (lineList_reads_entries.2.2.2 _ areEntries).2
  rw [joined] at read
  exact ⟨areEntries, joined, read⟩

end ContentBlocking.Text
