import Mathlib.Data.List.TakeWhile
import ContentBlocking.Proofs.Filter.FilterSize
import ContentBlocking.Proofs.Filter.UrlParts

/-!
# The filters for entries of an allowlist as trees

An entry is written into its filter with a pattern for a port number in front of its first slash.
Nothing in that pattern is escaped, and all of the entry that needs it is, so the filter is read
into the characters of the entry with the port number between them.
-/

namespace ContentBlocking.Filter

open Text Pattern

variable {rest : List Char} {items : List Item}

/-! ## Entries with a port number -/

section Slash

variable {entry host path : List Char}

theorem dropWhile_eq_nil_of_not_mem (noSlash : '/' ∉ entry) :
    entry.dropWhile (fun c => c ≠ '/') = [] := by
  rw [List.dropWhile_eq_nil_iff]
  exact Url.all_ne_of_not_mem noSlash

theorem dropWhile_host (noSlash : '/' ∉ host) :
    (host ++ '/' :: path).dropWhile (fun c => c ≠ '/') = '/' :: path := by
  rw [List.dropWhile_append_of_pos (Url.all_ne_of_not_mem noSlash)]
  rfl

theorem takeWhile_host (noSlash : '/' ∉ host) :
    (host ++ '/' :: path).takeWhile (fun c => c ≠ '/') = host := by
  rw [List.takeWhile_append_of_pos (Url.all_ne_of_not_mem noSlash)]
  simp

theorem withPortNumber_of_not_mem (noSlash : '/' ∉ entry) : withPortNumber entry = entry := by
  rw [withPortNumber, dropWhile_eq_nil_of_not_mem noSlash]

theorem withPortNumber_of_slash (noSlash : '/' ∉ host) :
    withPortNumber (host ++ '/' :: path) = host ++ optionalPortNumber.toList ++ '/' :: path := by
  rw [withPortNumber, dropWhile_host noSlash, takeWhile_host noSlash]

end Slash

/-! ## Reading -/

def portItem : Item := ⟨portTree, 5, true⟩

/-- The reader takes the text for an optional port number as one item. -/
theorem readItem?_optionalPortNumber (noQuestionMark : rest.head? ≠ some '?') :
    readItem? ⟨[], ⟨filterFlags, false, [], items⟩, []⟩ (optionalPortNumber.toList ++ rest) =
      readItem? ⟨[], ⟨filterFlags, false, [], portItem :: items⟩, []⟩ rest := by
  have text : optionalPortNumber.toList = ['(', ':'] ++ "[0-9]".toList ++ ['+', ')', '?'] := by
    decide
  rw [text, List.append_assoc, List.append_assoc]
  refine (readItem?_opening (by simp)).trans ?_
  refine (readItem?_plain (by decide)).trans ?_
  refine (readItem?_cons rfl readToken?_digit rfl).trans ?_
  refine (readItem?_repetition (fun _ _ => rfl) (by simp) rfl).trans ?_
  refine (readItem?_closing rfl).trans ?_
  exact readItem?_repetition (fun _ _ => rfl) noQuestionMark rfl

/-! ## The tree -/

def literalItems (text : List Char) : List Item := text.map fun c => { tree := .literal c }

/-- The items for an entry: its characters, with a port number in front of the first slash. -/
def entryItems (entry : List Char) : List Item :=
  match entry.dropWhile (fun c => c ≠ '/') with
  | [] => literalItems entry
  | path => literalItems (entry.takeWhile fun c => c ≠ '/') ++ portItem :: literalItems path

def entryTree (entry : List Char) : Written :=
  .seq ((startItems ++ (entryItems entry ++ [lineItem])).map Item.tree)

section Entries

variable {entry host path : List Char}

theorem entryItems_of_not_mem (noSlash : '/' ∉ entry) :
    entryItems entry = literalItems entry := by
  rw [entryItems, dropWhile_eq_nil_of_not_mem noSlash]

theorem entryItems_of_slash (noSlash : '/' ∉ host) :
    entryItems (host ++ '/' :: path) =
      literalItems host ++ portItem :: literalItems ('/' :: path) := by
  rw [entryItems, dropWhile_host noSlash, takeWhile_host noSlash]

theorem depth_le_of_mem_literalItems {text : List Char} :
    ∀ item ∈ literalItems text, item.depth ≤ 6 := by
  intro item member
  obtain ⟨c, _, rfl⟩ := List.mem_map.mp member
  exact Nat.zero_le 6

theorem depth_le_of_mem_entryItems :
    ∀ item ∈ entryItems entry ++ [lineItem], item.depth ≤ 6 := by
  intro item member
  rcases List.mem_append.mp member with inEntry | atEnd
  · unfold entryItems at inEntry
    split at inEntry
    · exact depth_le_of_mem_literalItems item inEntry
    · rcases List.mem_append.mp inEntry with inHost | later
      · exact depth_le_of_mem_literalItems item inHost
      · rcases List.mem_cons.mp later with rfl | inPath
        · decide
        · exact depth_le_of_mem_literalItems item inPath
  · rw [List.mem_singleton.mp atEnd]
    decide

/-- Behind the start the entry is read into its items, whatever has been read before. -/
theorem readItem?_entry (literal : entry.all isLiteral = true) :
    readItem? ⟨[], ⟨filterFlags, false, [], items⟩, []⟩
        (escapeChars (withPortNumber entry) ++ ".*".toList) =
      some (OpenGroup.contents
        ⟨filterFlags, false, [], (entryItems entry ++ [lineItem]).reverse ++ items⟩) := by
  by_cases slash : '/' ∈ entry
  · -- The pattern for the port number is read where the host ends, since nothing in it is escaped.
    obtain ⟨host, path, rfl, noSlash⟩ := List.eq_append_cons_of_mem slash
    rw [List.all_append, Bool.and_eq_true] at literal
    have unescaped : escapeChars optionalPortNumber.toList = optionalPortNumber.toList := by
      decide
    have noQuestionMark : (escapeChars ('/' :: path) ++ ".*".toList).head? ≠ some '?' :=
      head?_escapeChars_ne literal.2 (by decide)
    rw [withPortNumber_of_slash noSlash, entryItems_of_slash noSlash, escapeChars_append,
      escapeChars_append, unescaped, List.append_assoc, List.append_assoc]
    refine (readItem?_escapeChars literal.1).trans ?_
    refine (readItem?_optionalPortNumber noQuestionMark).trans ?_
    refine (readItem?_escapeChars literal.2).trans ?_
    rw [readItem?_line]
    simp [literalItems]
  · rw [withPortNumber_of_not_mem slash, entryItems_of_not_mem slash]
    refine (readItem?_escapeChars literal).trans ?_
    rw [readItem?_line]
    simp [literalItems]

end Entries

theorem head?_entry_ne {entry : List Char} (literal : entry.all isLiteral = true) :
    (escapeChars (withPortNumber entry) ++ ".*".toList).head? ≠ some '?' := by
  by_cases slash : '/' ∈ entry
  · obtain ⟨host, path, rfl, noSlash⟩ := List.eq_append_cons_of_mem slash
    rw [List.all_append, Bool.and_eq_true] at literal
    rw [withPortNumber_of_slash noSlash, escapeChars_append, escapeChars_append, List.append_assoc,
      List.append_assoc]
    exact head?_escapeChars_ne literal.1 (by simp [optionalPortNumber, escapeChars, protect])
  · rw [withPortNumber_of_not_mem slash]
    exact head?_escapeChars_ne literal (by decide)

/-- The filter for an entry is read as the tree for the entry, if no character of it has a meaning
in patterns. -/
theorem written_ofAllowlistEntry {entry : String} (literal : entry.toList.all isLiteral = true) :
    Written.ofChars? filterFlags (ofAllowlistEntry entry).toList =
      some (entryTree entry.toList) := by
  rw [ofAllowlistEntry, String.toList_append, String.toList_append, String.toList_ofList,
    List.append_assoc]
  exact written_of_readItem? (head?_entry_ne literal) (readItem?_entry literal)
    depth_le_of_mem_entryItems

end ContentBlocking.Filter
