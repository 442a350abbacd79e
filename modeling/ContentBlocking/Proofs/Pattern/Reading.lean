import ContentBlocking.Pattern.Parser

/-!
# Reading filters token by token

A written pattern is read by taking in one token after another. Each kind of token changes the group
that is open, and leaves the rest of the text to be read. The rest is arbitrary, so a long pattern
is read by reading its pieces. A question mark behind a repetition belongs to it, so the rest must
not begin with one there.
-/

namespace ContentBlocking.Pattern

open Text

/-! ## Token by token -/

theorem readItem?_cons {state next : State} {first : Char} {rest after : List Char} {token : Token}
    (unspaced : state.current.flags.spaced = false)
    (read : readToken? state.current.flags (first :: rest) = some (token, after))
    (taken : state.push? token = some next) :
    readItem? state (first :: rest) = readItem? next after := by
  have shown : skipSpace state.current.flags.spaced (first :: rest) = first :: rest := by
    rw [unspaced]
    rfl
  rw [readItem?]
  split
  · rename_i nothing
    rw [shown] at nothing
    cases nothing
  · rename_i something
    rw [shown] at something
    cases something
    split
    · rename_i refused
      rw [read] at refused
      cases refused
    · rename_i known
      rw [read] at known
      cases known
      rw [taken]

theorem readItem?_nil {current : OpenGroup} {names : List (List Char)}
    (unspaced : current.flags.spaced = false) :
    readItem? ⟨[], current, names⟩ [] = some current.contents := by
  have shown : skipSpace current.flags.spaced [] = [] := by
    rw [unspaced]
    rfl
  rw [readItem?]
  split
  · rfl
  · rename_i something
    rw [shown] at something
    cases something

def filterFlags : Flags := { ignoreCase := true }

namespace Written

def literal (c : Char) : Written := .set .unicode (.ofChars (variants c))

def optional (tree : Written) : Written := .repetition tree ⟨0, some 1, false⟩

def anyNumber (tree : Written) : Written := .repetition tree ⟨0, none, false⟩

def atLeastOnce (tree : Written) : Written := .repetition tree ⟨1, none, false⟩

end Written

/-! ## Characters, groups and repetitions -/

/-- Whether a character that is not escaped stands for itself. -/
def isPlain (c : Char) : Bool :=
  c ∉ ['\\', '.', '^', '$', '|', '(', ')', '[', '?', '*', '+', '\x7b']

variable {outer : List OpenGroup} {noted : Bool} {alternatives items : List Item} {last : Item}
  {names : List (List Char)} {rest : List Char}

theorem readItem?_plain {c : Char} (plain : isPlain c = true) :
    readItem? ⟨outer, ⟨filterFlags, noted, alternatives, items⟩, names⟩ (c :: rest) =
      readItem? ⟨outer, ⟨filterFlags, noted, alternatives, { tree := .literal c } :: items⟩, names⟩
        rest := by
  have read : readToken? filterFlags (c :: rest) = some (.element (.char c), rest) := by
    unfold readToken?
    split <;> simp_all [isPlain]
  exact readItem?_cons rfl read rfl

theorem readItem?_escaped {c : Char} (simple : readEscape? false (c :: rest) = some (.char c, rest)) :
    readItem? ⟨outer, ⟨filterFlags, noted, alternatives, items⟩, names⟩ ('\\' :: c :: rest) =
      readItem? ⟨outer, ⟨filterFlags, noted, alternatives, { tree := .literal c } :: items⟩, names⟩
        rest := by
  have read : readToken? filterFlags ('\\' :: c :: rest) = some (.element (.char c), rest) := by
    change (readEscape? false (c :: rest)).map _ = _
    rw [simple]
    rfl
  exact readItem?_cons rfl read rfl

theorem readItem?_opening (noQuestionMark : rest.head? ≠ some '?') :
    readItem? ⟨outer, ⟨filterFlags, noted, alternatives, items⟩, names⟩ ('(' :: rest) =
      readItem? ⟨⟨filterFlags, noted, alternatives, items⟩ :: outer, .new filterFlags true, names⟩
        rest := by
  have read : readToken? filterFlags ('(' :: rest) = some (.opening .noted, rest) := by
    change readOpeningToken? rest = _
    unfold readOpeningToken?
    split <;> simp_all
  exact readItem?_cons rfl read rfl

theorem readItem?_closing {current : OpenGroup} (unspaced : current.flags.spaced = false) :
    readItem? ⟨⟨filterFlags, noted, alternatives, items⟩ :: outer, current, names⟩ (')' :: rest) =
      readItem? ⟨outer, ⟨filterFlags, noted, alternatives, current.close :: items⟩, names⟩ rest :=
  readItem?_cons unspaced rfl rfl

/-- A repetition without a question mark behind it is for many. -/
theorem readItem?_repetition {mark : Char} {least : Nat} {most : Option Nat}
    (marked : ∀ flags text, readToken? flags (mark :: text) =
      some (.repetition ⟨least, most, asksForFew text⟩, skipQuestionMark text))
    (noQuestionMark : rest.head? ≠ some '?') (repeatable : last.repeatable = true) :
    readItem? ⟨outer, ⟨filterFlags, noted, alternatives, last :: items⟩, names⟩ (mark :: rest) =
      readItem? ⟨outer, ⟨filterFlags, noted, alternatives,
        ⟨.repetition last.tree ⟨least, most, false⟩, last.depth + 1, true⟩ :: items⟩, names⟩ rest := by
  have many : asksForFew rest = false := decide_eq_false noQuestionMark
  have nothingSkipped : skipQuestionMark rest = rest := by
    unfold skipQuestionMark
    split
    · exact absurd rfl noQuestionMark
    · rfl
  have read := marked filterFlags rest
  rw [many, nothingSkipped] at read
  refine readItem?_cons rfl read ?_
  simp only [State.push?, repeatable, if_true]
  rfl

/-! ## Bracket expressions -/

/-- Whether the next part of a bracket expression is an element or a range. -/
def startsRange : List Char → Bool
  | [] | '[' :: _ | ']' :: _ | '&' :: '&' :: _ | '-' :: '-' :: _ | '~' :: '~' :: _ => false
  | _ => true

theorem readBracket?_range {brackets : List OpenBracket} {bracket : OpenBracket}
    {text after : List Char} {part : SetPart} (ordinary : startsRange text = true)
    (read : readRange? filterFlags text = some (part, after)) :
    readBracket? filterFlags brackets bracket text =
      readBracket? filterFlags brackets (bracket.add part) after := by
  have shown : skipSpace filterFlags.spaced text = text := rfl
  rw [readBracket?]
  split
  case h_7 =>
    split
    · rename_i refused
      rw [shown, read] at refused
      cases refused
    · rename_i known
      rw [shown, read] at known
      cases known
      rfl
  all_goals
    rename_i special
    rw [shown] at special
    rw [special] at ordinary
    cases ordinary

theorem readBracket?_close {bracket : OpenBracket} :
    readBracket? filterFlags [] bracket (']' :: rest) =
      (bracket.close? filterFlags).map fun part => (part, rest) := by
  have shown : skipSpace filterFlags.spaced (']' :: rest) = ']' :: rest := rfl
  rw [readBracket?]
  split
  case h_3 =>
    rename_i closed
    rw [shown] at closed
    cases closed
    cases bracket.close? filterFlags <;> rfl
  case h_7 =>
    rename_i notClosed _ _ _
    exact absurd shown (notClosed rest)
  all_goals
    rename_i special
    rw [shown] at special
    cases special

theorem readOpening_cons {c : Char} (inside : c ∉ ['^', ']', '-']) :
    readOpening false (c :: rest) = (⟨false, none, []⟩, c :: rest) := by
  simp only [List.mem_cons, List.not_mem_nil, or_false, not_or] at inside
  obtain ⟨noCaret, noBracket, noHyphen⟩ := inside
  simp [readOpening, skipSpace, readLeadingParts, takeSpaced, noCaret, noBracket, noHyphen]

/-- A bracket expression is read as the union of its parts, where case does not matter. -/
theorem readToken?_bracket {c : Char} {text : List Char} {parts : List SetPart} {set : CharSet}
    (inside : c ∉ ['^', ']', '-'])
    (read : readBracket? filterFlags [] ⟨false, none, []⟩ (c :: text) =
      readBracket? filterFlags [] ⟨false, none, parts⟩ (']' :: rest))
    (closed : Alphabet.closure .unicode (SetPart.ofParts parts).set = set) :
    readToken? filterFlags ('[' :: c :: text) =
      some (.bracket ⟨set, (SetPart.ofParts parts).depth + 1⟩, rest) := by
  change (readBracket? filterFlags [] (readOpening false (c :: text)).1
    (readOpening false (c :: text)).2).map _ = _
  rw [readOpening_cons inside, read, readBracket?_close, ← closed]
  rfl

end ContentBlocking.Pattern
