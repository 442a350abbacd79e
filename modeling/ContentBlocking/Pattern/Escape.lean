import ContentBlocking.Pattern.Flags
import ContentBlocking.Pattern.Spacing

/-!
# Escapes in written patterns

A backslash starts an escape: a punctuation character that stands for itself, a control character
by its letter, a character by its code point, a class of characters, or a condition on the place.
No other letter, digit or non-ASCII character can be escaped. Each reader below takes the text at
its place and answers what it has read together with the rest, or nothing if the text is malformed.
-/

namespace ContentBlocking.Pattern

open ContentBlocking.Text

inductive Element where
  | char (c : Char)
  /-- A character by two hexadecimal digits, which is a byte in the ASCII alphabet. -/
  | byte (c : Char)
  | shorthand (kind : Shorthand) (negated : Bool)
  /-- The characters with a property. -/
  | property (set : CharSet) (negated : Bool)
  | place (condition : Look)
  | boundary (kind : Boundary)

def charOfCode? (code : Nat) : Option Char :=
  if code.isValidChar then some (Char.ofNat code) else none

def charOfHex? (digits : List Char) : Option Char :=
  if digits.isEmpty then none else charOfCode? (hexValue digits)

/-- Takes a given number of characters that satisfy a condition, and drops the space after each. -/
def takeExactly? (spaced : Bool) (p : Char → Bool) :
    Nat → List Char → Option (List Char × List Char)
  | 0, text => some ([], text)
  | _ + 1, [] => none
  | count + 1, c :: text =>
      if p c then
        (takeExactly? spaced p count (skipSpace spaced text)).map
          fun (taken, rest) => (c :: taken, rest)
      else none

/-- Takes characters that satisfy a condition up to a closing brace. -/
def takeBraced? (spaced : Bool) (p : Char → Bool) (text : List Char) :
    Option (List Char × List Char) :=
  match takeSpaced spaced p (skipSpace spaced text) with
  | (taken, '\x7d' :: rest) => some (taken, rest)
  | _ => none

/-- Reads a code point of so many digits, or of any number of digits between braces. -/
def readCode? (spaced : Bool) (count : Nat) (text : List Char) :
    Option ((Char × Bool) × List Char) :=
  match skipSpace spaced text with
  | '\x7b' :: text =>
      match takeBraced? spaced isHexDigit text with
      | none => none
      | some (digits, rest) => (charOfHex? digits).map fun c => ((c, true), skipSpace spaced rest)
  | text =>
      match takeExactly? spaced isHexDigit count text with
      | none => none
      | some (digits, rest) => (charOfHex? digits).map fun c => ((c, false), rest)

/-- Whether a character can be escaped to stand for itself. -/
def isEscapable (c : Char) : Bool := c.toNat < 128 && !c.isAlphanum && c ≠ '<' && c ≠ '>'

def boundaryNamed? (name : String) : Option Boundary :=
  if name = "start" then some .start
  else if name = "end" then some .finish
  else if name = "start-half" then some .startHalf
  else if name = "end-half" then some .endHalf
  else none

def isBoundaryNameChar (c : Char) : Bool := c.isAlpha || c = '-'

/-- Reads what follows an escaped `b`: the name of a boundary between braces, or nothing that
belongs to it. Braces that hold a number are left for a repetition. -/
def readBoundary? (spaced : Bool) (text : List Char) : Option (Element × List Char) :=
  match text with
  | '\x7b' :: after =>
      match skipSpace spaced after with
      | [] => none
      | first :: _ =>
          if isBoundaryNameChar first then
            match takeBraced? spaced isBoundaryNameChar after with
            | none => none
            | some (name, rest) =>
                (boundaryNamed? (String.ofList name)).map fun kind => (.boundary kind, rest)
          else some (.boundary .edge, text)
  | _ => some (.boundary .edge, text)

/-- What follows the first place at which a text has a separator, and what comes before. -/
def splitAt? (separator : List Char) : List Char → Option (List Char × List Char)
  | [] => if separator.isEmpty then some ([], []) else none
  | c :: text =>
      if separator.isPrefixOf (c :: text) then
        some ([], (c :: text).drop separator.length)
      else (splitAt? separator text).map fun (front, rest) => (c :: front, rest)

/-- The element for a property that is written between braces: a name, or a name and a value. An
exclamation mark before the equals sign negates once more. -/
def propertyNamed? (negated : Bool) (written : List Char) : Option Element :=
  match splitAt? ['!', '='] written with
  | some (name, value) => (Property.valued? name value).map (.property · (!negated))
  | none =>
      match (splitAt? [':'] written).or (splitAt? ['='] written) with
      | some (name, value) => (Property.valued? name value).map (.property · negated)
      | none => (Property.named? written).map (.property · negated)

/-- Reads the name of a property: one letter, or any text between braces. -/
def readProperty? (spaced negated : Bool) (text : List Char) : Option (Element × List Char) :=
  match skipSpace spaced text with
  | [] => none
  | '\x7b' :: text =>
      match takeBraced? spaced (fun c => c ≠ '\x7d') text with
      | none => none
      | some (written, rest) => (propertyNamed? negated written).map (·, rest)
  | c :: text =>
      if c = '\\' then none
      else (Property.named? [c]).map fun set => (.property set negated, skipSpace spaced text)

def simpleEscape? (c : Char) : Option Element :=
  match c with
  | 'd' => some (.shorthand .digit false)
  | 'D' => some (.shorthand .digit true)
  | 'w' => some (.shorthand .word false)
  | 'W' => some (.shorthand .word true)
  | 's' => some (.shorthand .blank false)
  | 'S' => some (.shorthand .blank true)
  | 'a' => some (.char '\x07')
  | 't' => some (.char '\t')
  | 'n' => some (.char '\n')
  | 'v' => some (.char '\x0b')
  | 'f' => some (.char '\x0c')
  | 'r' => some (.char '\r')
  | 'A' => some (.place .textStart)
  | 'z' => some (.place .textEnd)
  | 'B' => some (.boundary .inside)
  | '<' => some (.boundary .start)
  | '>' => some (.boundary .finish)
  | c => if isEscapable c then some (.char c) else none

def codeElement (byteWide : Bool) : Char × Bool → Element
  | (c, braced) => if byteWide && !braced then .byte c else .char c

def readEscape? (spaced : Bool) : List Char → Option (Element × List Char)
  | [] => none
  | 'x' :: text => (readCode? spaced 2 text).map fun (code, rest) => (codeElement true code, rest)
  | 'u' :: text => (readCode? spaced 4 text).map fun (code, rest) => (codeElement false code, rest)
  | 'U' :: text => (readCode? spaced 8 text).map fun (code, rest) => (codeElement false code, rest)
  | 'p' :: text => readProperty? spaced false text
  | 'P' :: text => readProperty? spaced true text
  | 'b' :: text => readBoundary? spaced text
  | c :: text => (simpleEscape? c).map (·, text)

namespace Element

/-- The characters that an element stands for. A condition on the place describes none, and neither
does a character outside the alphabet. -/
def members? (flags : Flags) : Element → Option CharSet
  | .char c | .byte c => if flags.alphabet.has c then some (.single c) else none
  | .shorthand kind negated => flags.negate? negated (flags.alphabet.members kind)
  | .property set negated =>
      if flags.alphabet = .unicode then flags.negate? negated (flags.close set) else none
  | .place _ | .boundary _ => none

end Element

/-! ## Readers shorten the text -/

theorem length_of_takeExactly? {spaced : Bool} {p : Char → Bool} {count : Nat}
    {text taken rest : List Char} (h : takeExactly? spaced p count text = some (taken, rest)) :
    rest.length ≤ text.length := by
  induction count generalizing text taken with
  | zero =>
      cases h
      exact Nat.le_refl _
  | succ count ih =>
      cases text with
      | nil => cases h
      | cons c text =>
          rw [takeExactly?] at h
          split at h
          · obtain ⟨_, read, same⟩ := Option.map_eq_some_iff.1 h
            cases same
            have := ih read
            have := length_skipSpace_le spaced text
            simp only [List.length_cons]
            omega
          · cases h

theorem length_of_takeBraced? {spaced : Bool} {p : Char → Bool} {text taken rest : List Char}
    (h : takeBraced? spaced p text = some (taken, rest)) : rest.length < text.length := by
  unfold takeBraced? at h
  split at h
  · rename_i read
    cases h
    have shorter := length_takeSpaced_le spaced p (skipSpace spaced text)
    have := length_skipSpace_le spaced text
    rw [read] at shorter
    simp only [List.length_cons] at shorter
    omega
  · cases h

theorem length_of_readCode? {spaced : Bool} {count : Nat} {text rest : List Char}
    {code : Char × Bool} (h : readCode? spaced count text = some (code, rest)) :
    rest.length ≤ text.length := by
  unfold readCode? at h
  have skipped := length_skipSpace_le spaced text
  split at h
  · rename_i after split
    rw [split, List.length_cons] at skipped
    split at h
    · cases h
    · rename_i read
      obtain ⟨_, _, same⟩ := Option.map_eq_some_iff.1 h
      cases same
      have := length_of_takeBraced? read
      have := length_skipSpace_le spaced
      grind
  · split at h
    · cases h
    · rename_i read
      obtain ⟨_, _, same⟩ := Option.map_eq_some_iff.1 h
      cases same
      have := length_of_takeExactly? read
      omega

theorem length_of_readBoundary? {spaced : Bool} {text rest : List Char} {element : Element}
    (h : readBoundary? spaced text = some (element, rest)) : rest.length ≤ text.length := by
  unfold readBoundary? at h
  split at h
  · split at h
    · cases h
    · split at h
      · split at h
        · cases h
        · rename_i read
          obtain ⟨_, _, same⟩ := Option.map_eq_some_iff.1 h
          cases same
          have := length_of_takeBraced? read
          simp only [List.length_cons]
          omega
      · cases h
        exact Nat.le_refl _
  · cases h
    exact Nat.le_refl _

theorem length_of_readProperty? {spaced negated : Bool} {text rest : List Char}
    {element : Element} (h : readProperty? spaced negated text = some (element, rest)) :
    rest.length ≤ text.length := by
  unfold readProperty? at h
  have skipped := length_skipSpace_le spaced text
  split at h
  · cases h
  · rename_i split
    rw [split, List.length_cons] at skipped
    split at h
    · cases h
    · rename_i read
      obtain ⟨_, _, same⟩ := Option.map_eq_some_iff.1 h
      cases same
      have := length_of_takeBraced? read
      omega
  · rename_i c after _ split
    rw [split, List.length_cons] at skipped
    split at h
    · cases h
    · obtain ⟨_, _, same⟩ := Option.map_eq_some_iff.1 h
      cases same
      have := length_skipSpace_le spaced after
      omega

/-- Reading an escape consumes at least one character. -/
theorem length_of_readEscape? {spaced : Bool} {text rest : List Char} {element : Element}
    (h : readEscape? spaced text = some (element, rest)) : rest.length < text.length := by
  unfold readEscape? at h
  split at h
  · cases h
  · obtain ⟨_, read, same⟩ := Option.map_eq_some_iff.1 h
    cases same
    exact Nat.lt_succ_of_le (length_of_readCode? read)
  · obtain ⟨_, read, same⟩ := Option.map_eq_some_iff.1 h
    cases same
    exact Nat.lt_succ_of_le (length_of_readCode? read)
  · obtain ⟨_, read, same⟩ := Option.map_eq_some_iff.1 h
    cases same
    exact Nat.lt_succ_of_le (length_of_readCode? read)
  · exact Nat.lt_succ_of_le (length_of_readProperty? h)
  · exact Nat.lt_succ_of_le (length_of_readProperty? h)
  · exact Nat.lt_succ_of_le (length_of_readBoundary? h)
  · obtain ⟨_, _, same⟩ := Option.map_eq_some_iff.1 h
    cases same
    exact Nat.lt_succ_self _

end ContentBlocking.Pattern
