import ContentBlocking.Pattern.Bracket
import ContentBlocking.Pattern.Written
import ContentBlocking.Text.Letter

/-!
# Tokens of written patterns

A written pattern is read token by token. Outside bracket expressions a character stands for itself
unless it is one of `\ . ^ $ | ( ) [ ? * + {`; a closing bracket or brace is an ordinary character.
-/

namespace ContentBlocking.Pattern

open ContentBlocking.Text

inductive Opening where
  /-- A group whose place in a text is of interest. -/
  | noted
  /-- Such a group with a name. -/
  | named (name : List Char)
  /-- A group that only holds its contents together, with the switches that change in it. -/
  | plain (letters : List Char)

inductive Token where
  | element (element : Element)
  | dot
  | caret
  | dollar
  | bracket (part : SetPart)
  /-- A repetition; few are preferred if a question mark stands behind it. -/
  | repetition (counts : Counts)
  | opening (opening : Opening)
  | flags (letters : List Char)
  | closing
  | bar

/-! ## Repetitions -/

/-- The largest count that a repetition may state. -/
def maxCount : Nat := 0xffffffff

def isCountDigit (c : Char) : Bool := '0' ≤ c && c ≤ '9'

def decimalValue (digits : List Char) : Nat :=
  digits.foldl (fun value digit => 10 * value + (digit.toNat - 48)) 0

/-- Reads a count with the blanks around it. -/
def readCount? (spaced : Bool) (text : List Char) : Option (Nat × List Char) :=
  let (digits, rest) :=
    takeSpaced spaced isCountDigit ((skipSpace spaced text).dropWhile isBlank)
  let value := decimalValue digits
  if digits.isEmpty || maxCount < value then none else some (value, rest.dropWhile isBlank)

def asksForFew (text : List Char) : Bool := text.head? = some '?'

def skipQuestionMark : List Char → List Char
  | '?' :: rest => rest
  | text => text

/-- The repetition that counts ask for, and the text behind its closing brace. -/
def finishCounts (spaced : Bool) (least : Nat) (most : Option Nat) (text : List Char) :
    Token × List Char :=
  let text := skipSpace spaced text
  (.repetition ⟨least, most, asksForFew text⟩, skipQuestionMark text)

def readCounts? (spaced : Bool) (text : List Char) : Option (Token × List Char) :=
  match readCount? spaced text with
  | none => none
  | some (least, '\x7d' :: rest) => some (finishCounts spaced least (some least) rest)
  | some (least, ',' :: text) =>
      match skipSpace spaced text with
      | '\x7d' :: rest => some (finishCounts spaced least none rest)
      | _ =>
          match readCount? spaced text with
          | some (most, '\x7d' :: rest) =>
              if least ≤ most then some (finishCounts spaced least (some most) rest) else none
          | _ => none
  | _ => none

/-! ## Groups -/

def startsGroupName (c : Char) : Bool := c = '_' || isLetter c

def continuesGroupName (c : Char) : Bool :=
  c = '_' || c = '.' || c = '[' || c = ']' || isLetterOrNumber c

def isGroupName : List Char → Bool
  | [] => false
  | first :: rest => startsGroupName first && rest.all continuesGroupName

def readGroupName? (text : List Char) : Option (Token × List Char) :=
  match text.dropWhile (fun c => c ≠ '>') with
  | [] => none
  | _ :: rest =>
      let name := text.takeWhile (fun c => c ≠ '>')
      if isGroupName name then some (.opening (.named name), rest) else none

/-- Reads switches up to the closing parenthesis or to the colon that opens a group. -/
def readFlags? (text : List Char) : Option (Token × List Char) :=
  let letters := text.takeWhile (fun c => c ≠ ':' && c ≠ ')')
  match text.dropWhile (fun c => c ≠ ':' && c ≠ ')') with
  | ')' :: rest =>
      if Flags.areValid letters && !letters.isEmpty then some (.flags letters, rest) else none
  | ':' :: rest => if Flags.areValid letters then some (.opening (.plain letters), rest) else none
  | _ => none

/-- Reads what follows an opening parenthesis. Conditions on the text around a place are refused. -/
def readOpeningToken? : List Char → Option (Token × List Char)
  | '?' :: '=' :: _ | '?' :: '!' :: _ => none
  | '?' :: '<' :: '=' :: _ | '?' :: '<' :: '!' :: _ => none
  | '?' :: 'P' :: '<' :: text | '?' :: '<' :: text => readGroupName? text
  | '?' :: text => readFlags? text
  | text => some (.opening .noted, text)

/-! ## Tokens -/

/-- Reads the next token of a text that is not at its end, with no space in front. -/
def readToken? (flags : Flags) : List Char → Option (Token × List Char)
  | [] => none
  | '(' :: text => readOpeningToken? (skipSpace flags.spaced text)
  | ')' :: text => some (.closing, text)
  | '|' :: text => some (.bar, text)
  | '[' :: text =>
      let opening := readOpening flags.spaced text
      (readBracket? flags [] opening.1 opening.2).map fun (part, rest) => (.bracket part, rest)
  | '?' :: text => some (.repetition ⟨0, some 1, asksForFew text⟩, skipQuestionMark text)
  | '*' :: text => some (.repetition ⟨0, none, asksForFew text⟩, skipQuestionMark text)
  | '+' :: text => some (.repetition ⟨1, none, asksForFew text⟩, skipQuestionMark text)
  | '\x7b' :: text => readCounts? flags.spaced text
  | '\\' :: text =>
      (readEscape? flags.spaced text).map fun (element, rest) => (.element element, rest)
  | '.' :: text => some (.dot, text)
  | '^' :: text => some (.caret, text)
  | '$' :: text => some (.dollar, text)
  | c :: text => some (.element (.char c), text)

/-! ## Reading a token shortens the text -/

theorem length_readBracket?_lt {flags : Flags} {outer : List OpenBracket}
    {current : OpenBracket} {text rest : List Char} {part : SetPart}
    (h : readBracket? flags outer current text = some (part, rest)) :
    rest.length < text.length := by
  have skipped := length_skipSpace_le flags.spaced
  fun_induction readBracket? flags outer current text with
  | case1 => cases h
  | case2 outer current text after split part rest read ih =>
      have := skipped text
      have := length_of_readAsciiClass read
      rw [split, List.length_cons] at *
      exact Nat.lt_trans (ih h) (by omega)
  | case3 => cases h
  | case4 outer current text after split read ih =>
      have := skipped text
      have := length_readOpening_le flags.spaced after
      rw [split, List.length_cons] at *
      exact Nat.lt_of_lt_of_le (ih h) (by omega)
  | case5 => cases h
  | case6 current text after split part closed =>
      have := skipped text
      rw [split, List.length_cons] at this
      cases h
      omega
  | case7 current text after split part enclosing outer closed ih =>
      have := skipped text
      rw [split, List.length_cons] at this
      exact Nat.lt_trans (ih h) (by omega)
  | case8 outer current text after split ih =>
      have := skipped text
      simp only [split, List.length_cons] at this
      exact Nat.lt_trans (ih h) (by omega)
  | case9 outer current text after split ih =>
      have := skipped text
      simp only [split, List.length_cons] at this
      exact Nat.lt_trans (ih h) (by omega)
  | case10 outer current text after split ih =>
      have := skipped text
      simp only [split, List.length_cons] at this
      exact Nat.lt_trans (ih h) (by omega)
  | case11 => cases h
  | case12 outer current text part after _ _ _ _ _ _ read ih =>
      have := length_of_readRange? read
      exact Nat.lt_trans (ih h) (Nat.lt_of_lt_of_le this (skipped text))

theorem length_skipQuestionMark_le (text : List Char) :
    (skipQuestionMark text).length ≤ text.length := by
  unfold skipQuestionMark
  split
  · exact Nat.le_succ _
  · exact Nat.le_refl _

theorem length_of_readCount? {spaced : Bool} {text rest : List Char} {value : Nat}
    (h : readCount? spaced text = some (value, rest)) : rest.length ≤ text.length := by
  unfold readCount? at h
  dsimp only at h
  split at h
  · cases h
  · cases h
    have first := length_skipSpace_le spaced text
    have second := length_dropWhile_le isBlank (skipSpace spaced text)
    have third :=
      length_takeSpaced_le spaced isCountDigit ((skipSpace spaced text).dropWhile isBlank)
    have fourth := length_dropWhile_le isBlank
      (takeSpaced spaced isCountDigit ((skipSpace spaced text).dropWhile isBlank)).2
    omega

theorem length_of_finishCounts {spaced : Bool} {least : Nat} {most : Option Nat}
    {text rest : List Char} {token : Token}
    (h : some (finishCounts spaced least most text) = some (token, rest)) :
    rest.length ≤ text.length := by
  cases h
  exact Nat.le_trans (length_skipQuestionMark_le _) (length_skipSpace_le spaced text)

theorem length_of_readCounts? {spaced : Bool} {text rest : List Char} {token : Token}
    (h : readCounts? spaced text = some (token, rest)) : rest.length ≤ text.length := by
  unfold readCounts? at h
  split at h
  · cases h
  · rename_i read
    have first := length_of_readCount? read
    have second := length_of_finishCounts h
    rw [List.length_cons] at first
    omega
  · rename_i after read
    have first := length_of_readCount? read
    have skipped := length_skipSpace_le spaced after
    rw [List.length_cons] at first
    split at h
    · rename_i split
      have second := length_of_finishCounts h
      rw [split, List.length_cons] at skipped
      omega
    · split at h
      · rename_i readMost
        split at h
        · have second := length_of_readCount? readMost
          have third := length_of_finishCounts h
          rw [List.length_cons] at second
          omega
        · cases h
      · cases h
  · cases h

theorem length_of_readGroupName? {text rest : List Char} {token : Token}
    (h : readGroupName? text = some (token, rest)) : rest.length ≤ text.length := by
  unfold readGroupName? at h
  have := length_dropWhile_le (fun c => c ≠ '>') text
  split at h
  · cases h
  · rename_i shorter
    rw [shorter] at this
    dsimp only at h
    split at h
    · cases h
      simp only [List.length_cons] at this
      omega
    · cases h

theorem length_of_readFlags? {text rest : List Char} {token : Token}
    (h : readFlags? text = some (token, rest)) : rest.length ≤ text.length := by
  unfold readFlags? at h
  have := length_dropWhile_le (fun c => c ≠ ':' && c ≠ ')') text
  dsimp only at h
  split at h
  · rename_i shorter
    rw [shorter] at this
    simp only [List.length_cons] at this
    split at h
    · cases h
      omega
    · cases h
  · rename_i shorter
    rw [shorter] at this
    simp only [List.length_cons] at this
    split at h
    · cases h
      omega
    · cases h
  · cases h

theorem length_of_readOpeningToken? {text rest : List Char} {token : Token}
    (h : readOpeningToken? text = some (token, rest)) : rest.length ≤ text.length := by
  unfold readOpeningToken? at h
  split at h
  all_goals first
    | (cases h; done)
    | exact Nat.le_trans (length_of_readGroupName? h) (by simp only [List.length_cons]; omega)
    | exact Nat.le_trans (length_of_readFlags? h) (by simp only [List.length_cons]; omega)
    | (cases h; exact Nat.le_refl _)

/-- Reading a token consumes at least one character. -/
theorem length_of_readToken? {flags : Flags} {text rest : List Char} {token : Token}
    (h : readToken? flags text = some (token, rest)) : rest.length < text.length := by
  unfold readToken? at h
  split at h
  · cases h
  · exact Nat.lt_succ_of_le
      (Nat.le_trans (length_of_readOpeningToken? h) (length_skipSpace_le _ _))
  · cases h
    exact Nat.lt_succ_self _
  · cases h
    exact Nat.lt_succ_self _
  · rename_i tail
    obtain ⟨⟨part, after⟩, read, same⟩ := Option.map_eq_some_iff.1 h
    cases same
    have := length_readBracket?_lt read
    have := length_readOpening_le flags.spaced tail
    simp only [List.length_cons]
    omega
  · cases h
    exact Nat.lt_succ_of_le (length_skipQuestionMark_le _)
  · cases h
    exact Nat.lt_succ_of_le (length_skipQuestionMark_le _)
  · cases h
    exact Nat.lt_succ_of_le (length_skipQuestionMark_le _)
  · exact Nat.lt_succ_of_le (length_of_readCounts? h)
  · obtain ⟨⟨element, after⟩, read, same⟩ := Option.map_eq_some_iff.1 h
    cases same
    have := length_of_readEscape? read
    simp only [List.length_cons]
    omega
  all_goals
    cases h
    exact Nat.lt_succ_self _

end ContentBlocking.Pattern
