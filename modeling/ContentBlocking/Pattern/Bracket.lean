import ContentBlocking.Pattern.Escape

/-!
# Bracket expressions in written patterns

A bracket expression describes a set of characters by single characters, ranges, escapes, named
ASCII classes and further bracket expressions. Two ampersands intersect what stands on their two
sides, two hyphens subtract, and two tildes keep what is on one side only. If case is ignored, each
operand and each whole expression is closed under changes of case before it is used or negated.
-/

namespace ContentBlocking.Pattern

open ContentBlocking.Text

/-- A set that occurs in a bracket expression, with the depth to which its description is
nested. -/
structure SetPart where
  set : CharSet
  depth : Nat

inductive SetOperation where
  | inter
  | diff
  | symmDiff

def SetOperation.apply : SetOperation → CharSet → CharSet → CharSet
  | .inter => .inter
  | .diff => .diff
  | .symmDiff => .symmDiff

/-- A bracket expression that is not closed yet: what stands before its last operator, and the
parts after it, the latest first. -/
structure OpenBracket where
  negated : Bool
  left : Option (SetPart × SetOperation)
  parts : List SetPart

def SetPart.ofParts : List SetPart → SetPart
  | [] => ⟨.none, 0⟩
  | [only] => only
  | parts =>
      ⟨.unionAll (parts.map SetPart.set), (parts.map SetPart.depth).foldl max 0 + 1⟩

namespace OpenBracket

def add (bracket : OpenBracket) (part : SetPart) : OpenBracket :=
  { bracket with parts := part :: bracket.parts }

/-- What the expression means so far. Operators group to the left. -/
def total (flags : Flags) (bracket : OpenBracket) : SetPart :=
  let right := SetPart.ofParts bracket.parts
  match bracket.left with
  | none => right
  | some (left, operation) =>
      ⟨operation.apply (flags.close left.set) (flags.close right.set),
        max left.depth right.depth + 1⟩

def operate (flags : Flags) (operation : SetOperation) (bracket : OpenBracket) : OpenBracket :=
  { bracket with left := some (bracket.total flags, operation), parts := [] }

def close? (flags : Flags) (bracket : OpenBracket) : Option SetPart :=
  let total := bracket.total flags
  (flags.negate? bracket.negated (flags.close total.set)).map fun set => ⟨set, total.depth + 1⟩

end OpenBracket

def asciiClass? (name : String) : Option (List (Char × Char)) :=
  if name = "alnum" then some [('0', '9'), ('A', 'Z'), ('a', 'z')]
  else if name = "alpha" then some [('A', 'Z'), ('a', 'z')]
  else if name = "ascii" then some [('\x00', '\x7f')]
  else if name = "blank" then some [('\t', '\t'), (' ', ' ')]
  else if name = "cntrl" then some [('\x00', '\x1f'), ('\x7f', '\x7f')]
  else if name = "digit" then some [('0', '9')]
  else if name = "graph" then some [('!', '~')]
  else if name = "lower" then some [('a', 'z')]
  else if name = "print" then some [(' ', '~')]
  else if name = "punct" then some [('!', '/'), (':', '@'), ('[', '\x60'), ('\x7b', '~')]
  else if name = "space" then some [('\t', '\r'), (' ', ' ')]
  else if name = "upper" then some [('A', 'Z')]
  else if name = "word" then some [('0', '9'), ('A', 'Z'), ('_', '_'), ('a', 'z')]
  else if name = "xdigit" then some [('0', '9'), ('A', 'F'), ('a', 'f')]
  else none

inductive ClassReading where
  /-- No class begins here. -/
  | absent
  /-- A class that is not allowed. -/
  | refused
  | found (part : SetPart) (rest : List Char)

def readClassName (flags : Flags) (negated : Bool) (text : List Char) : ClassReading :=
  match text.dropWhile (fun c => c ≠ ':') with
  | ':' :: ']' :: rest =>
      match asciiClass? (String.ofList (text.takeWhile (fun c => c ≠ ':'))) with
      | none => .absent
      | some ranges =>
          match flags.negate? negated (flags.close (.ofRanges ranges)) with
          | none => .refused
          | some set => .found ⟨set, 0⟩ rest
  | _ => .absent

def readAsciiClass (flags : Flags) : List Char → ClassReading
  | ':' :: '^' :: text => readClassName flags true text
  | ':' :: text => readClassName flags false text
  | _ => .absent

/-- Reads an element of a bracket expression, in which only the backslash is special. -/
def readElement? (spaced : Bool) : List Char → Option (Element × List Char)
  | [] => none
  | '\\' :: text => readEscape? spaced text
  | c :: text => some (.char c, text)

def Element.toPart? (flags : Flags) (element : Element) : Option SetPart :=
  (element.members? flags).map (⟨·, 0⟩)

/-- The character that an element stands for by itself. -/
def Element.char? (flags : Flags) : Element → Option Char
  | .char c | .byte c => if flags.alphabet.has c then some c else none
  | _ => none

/-- The range between two elements, which have to be characters in order. -/
def rangePart? (flags : Flags) (first last : Element) : Option SetPart :=
  match first.char? flags, last.char? flags with
  | some first, some last => if first ≤ last then some ⟨.range first last, 0⟩ else none
  | _, _ => none

/-- Reads an element or a range. A hyphen before another hyphen or before the closing bracket makes
no range. -/
def readRange? (flags : Flags) (text : List Char) : Option (SetPart × List Char) :=
  match readElement? flags.spaced text with
  | none => none
  | some (first, rest) =>
      match skipSpace flags.spaced rest with
      | '-' :: after =>
          let next := peekSpace flags.spaced after
          if next = some ']' || next = some '-' then (first.toPart? flags).map (·, '-' :: after)
          else
            match readElement? flags.spaced (skipSpace flags.spaced after) with
            | none => none
            | some (last, rest) => (rangePart? flags first last).map (·, rest)
      | rest => (first.toPart? flags).map (·, rest)

/-- Reads the first parts of a bracket expression. Leading hyphens stand for themselves, and so
does a closing bracket in the first place. -/
def readLeadingParts (spaced negated : Bool) : List Char → OpenBracket × List Char
  | ']' :: rest => (⟨negated, none, [⟨.single ']', 0⟩]⟩, rest)
  | text =>
      let (hyphens, rest) := takeSpaced spaced (fun c => c = '-') text
      (⟨negated, none, hyphens.map (fun c => ⟨.single c, 0⟩)⟩, rest)

def readOpening (spaced : Bool) (text : List Char) : OpenBracket × List Char :=
  match skipSpace spaced text with
  | '^' :: rest => readLeadingParts spaced true (skipSpace spaced rest)
  | text => readLeadingParts spaced false text

/-! ## Readers shorten the text -/

theorem length_of_readClassName {flags : Flags} {negated : Bool} {text rest : List Char}
    {part : SetPart} (h : readClassName flags negated text = .found part rest) :
    rest.length < text.length := by
  unfold readClassName at h
  split at h
  · rename_i tail shorter
    have := length_dropWhile_le (fun c => c ≠ ':') text
    rw [shorter] at this
    simp only [List.length_cons] at this
    split at h
    · cases h
    · split at h
      · cases h
      · cases h
        omega
  · cases h

theorem length_of_readAsciiClass {flags : Flags} {text rest : List Char} {part : SetPart}
    (h : readAsciiClass flags text = .found part rest) : rest.length < text.length := by
  unfold readAsciiClass at h
  split at h
  · have := length_of_readClassName h
    simp only [List.length_cons]
    omega
  · have := length_of_readClassName h
    simp only [List.length_cons]
    omega
  · cases h

theorem length_of_readElement? {spaced : Bool} {text rest : List Char} {element : Element}
    (h : readElement? spaced text = some (element, rest)) : rest.length < text.length := by
  unfold readElement? at h
  split at h
  · cases h
  · have := length_of_readEscape? h
    simp only [List.length_cons]
    omega
  · cases h
    simp

/-- Reading a range consumes at least one character. -/
theorem length_of_readRange? {flags : Flags} {text rest : List Char} {part : SetPart}
    (h : readRange? flags text = some (part, rest)) : rest.length < text.length := by
  unfold readRange? at h
  split at h
  · cases h
  · rename_i first tail readFirst
    have firstShorter := length_of_readElement? readFirst
    have skipped := length_skipSpace_le flags.spaced tail
    split at h
    · rename_i after split
      rw [split, List.length_cons] at skipped
      dsimp only at h
      split at h
      · obtain ⟨_, _, same⟩ := Option.map_eq_some_iff.1 h
        cases same
        simp only [List.length_cons]
        omega
      · split at h
        · cases h
        · rename_i readLast
          obtain ⟨_, _, same⟩ := Option.map_eq_some_iff.1 h
          cases same
          have lastShorter := length_of_readElement? readLast
          have := length_skipSpace_le flags.spaced after
          omega
    · obtain ⟨_, _, same⟩ := Option.map_eq_some_iff.1 h
      cases same
      omega

theorem length_readLeadingParts_le (spaced negated : Bool) (text : List Char) :
    (readLeadingParts spaced negated text).2.length ≤ text.length := by
  unfold readLeadingParts
  split
  · exact Nat.le_succ _
  · exact length_takeSpaced_le _ _ _

theorem length_readOpening_le (spaced : Bool) (text : List Char) :
    (readOpening spaced text).2.length ≤ text.length := by
  unfold readOpening
  have skipped := length_skipSpace_le spaced text
  split
  · rename_i rest split
    rw [split, List.length_cons] at skipped
    have := length_readLeadingParts_le spaced true (skipSpace spaced rest)
    have := length_skipSpace_le spaced rest
    omega
  · have := length_readLeadingParts_le spaced false (skipSpace spaced text)
    omega

/-! ## Whole expressions -/

/-- Reads a bracket expression to its end. `outer` holds the expressions around the current one,
the innermost first. -/
def readBracket? (flags : Flags) (outer : List OpenBracket) (current : OpenBracket)
    (text : List Char) : Option (SetPart × List Char) :=
  match _skipped : skipSpace flags.spaced text with
  | [] => none
  | '[' :: rest =>
      match _read : readAsciiClass flags rest with
      | .found part after => readBracket? flags outer (current.add part) after
      | .refused => none
      | .absent =>
          readBracket? flags (current :: outer) (readOpening flags.spaced rest).1
            (readOpening flags.spaced rest).2
  | ']' :: rest =>
      match current.close? flags, outer with
      | none, _ => none
      | some part, [] => some (part, rest)
      | some part, enclosing :: outer => readBracket? flags outer (enclosing.add part) rest
  | '&' :: '&' :: rest => readBracket? flags outer (current.operate flags .inter) rest
  | '-' :: '-' :: rest => readBracket? flags outer (current.operate flags .diff) rest
  | '~' :: '~' :: rest => readBracket? flags outer (current.operate flags .symmDiff) rest
  | shown =>
      match _read : readRange? flags shown with
      | none => none
      | some (part, after) => readBracket? flags outer (current.add part) after
termination_by text.length
decreasing_by
  all_goals
    have skipped := length_skipSpace_le flags.spaced text
    rw [_skipped] at skipped
  · have := length_of_readAsciiClass _read
    simp only [List.length_cons] at skipped
    omega
  · have := length_readOpening_le flags.spaced rest
    simp only [List.length_cons] at skipped
    omega
  all_goals first
    | simp only [List.length_cons] at skipped
      omega
    | have := length_of_readRange? _read
      omega

end ContentBlocking.Pattern
