import ContentBlocking.Text.CharSet

/-!
# Line lists

A line list is a text with one entry a line. Blanks around an entry do not count, and a line of
blanks holds no entry. The carriage return of a line end is a blank, so both conventions for line
ends give the same entries. Reading lines first and trimming them later comes to the same, since
`lines` only takes away what would be trimmed.
-/

namespace ContentBlocking.Text

def trim (text : List Char) : List Char :=
  ((text.dropWhile isBlank).reverse.dropWhile isBlank).reverse

/-- The entries of a line list, in the order of their lines. -/
def lineEntries (text : List Char) : List (List Char) :=
  ((text.splitOn '\n').map trim).filter (fun entry => !entry.isEmpty)

def lineList (text : String) : List String :=
  (lineEntries text.toList).map String.ofList

/-! ## Lines -/

variable {line : List Char}

/-- A text is one line, or a line with a newline and a text behind it. -/
theorem line_induction {motive : List Char → Prop}
    (line : ∀ line, '\n' ∉ line → motive line)
    (newline : ∀ line rest, '\n' ∉ line → motive rest → motive (line ++ '\n' :: rest))
    (text : List Char) : motive text := by
  by_cases several : '\n' ∈ text
  · obtain ⟨first, rest, whole, single⟩ := List.eq_append_cons_of_mem several
    rw [whole]
    exact newline first rest single (line_induction line newline rest)
  · exact line text several
termination_by text.length
decreasing_by
  rw [whole, List.length_append, List.length_cons]
  omega

theorem lineEntries_append (before behind : List Char) :
    lineEntries (before ++ '\n' :: behind) = lineEntries before ++ lineEntries behind := by
  rw [lineEntries, List.splitOn_append_cons_self, List.map_append, List.filter_append]
  rfl

theorem lineEntries_of_line (single : '\n' ∉ line) :
    lineEntries line = if trim line = [] then [] else [trim line] := by
  rw [lineEntries, List.splitOn_eq_singleton single, List.map_singleton]
  cases trim line <;> rfl

def withoutReturn (line : List Char) : List Char :=
  if line.getLast? = some '\r' then line.dropLast else line

/-- The lines of a text without their ends: a newline, with or without a carriage return in front.
Behind the last newline there is another line unless nothing stands there. -/
def lines (text : List Char) : List (List Char) :=
  (text.splitOn '\n').dropLast.map withoutReturn ++
    (text.splitOn '\n').getLast?.toList.filter fun line => !line.isEmpty

theorem lines_of_line (single : '\n' ∉ line) : lines line = if line = [] then [] else [line] := by
  rw [lines, List.splitOn_eq_singleton single]
  cases line <;> rfl

theorem lines_append (single : '\n' ∉ line) (behind : List Char) :
    lines (line ++ '\n' :: behind) = withoutReturn line :: lines behind := by
  rw [lines, List.splitOn_append_cons_self, List.splitOn_eq_singleton single, lines]
  cases pieces : behind.splitOn '\n' with
  | nil => exact absurd pieces (List.splitOn_ne_nil _ _)
  | cons first rest => rfl

end ContentBlocking.Text
