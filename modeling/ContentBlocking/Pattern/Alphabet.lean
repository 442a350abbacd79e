import ContentBlocking.Text.Folding
import ContentBlocking.Text.Property

/-!
# Alphabets

What counts as a digit, a blank or a word character, and which characters differ in case at most,
depends on whether a pattern is about all scripts or about ASCII alone.
-/

namespace ContentBlocking.Pattern

open ContentBlocking.Text

inductive Alphabet where
  | unicode
  | ascii
deriving Repr, DecidableEq

/-- The classes of characters that have an escape of their own. -/
inductive Shorthand where
  | digit
  | blank
  | word
deriving Repr, DecidableEq

namespace Alphabet

def has (alphabet : Alphabet) (c : Char) : Bool :=
  match alphabet with
  | .unicode => true
  | .ascii => c.toNat < 0x80

def members : Alphabet → Shorthand → CharSet
  | .unicode, .digit => digits
  | .unicode, .blank => blanks
  | .unicode, .word => wordChars
  | .ascii, .digit => asciiDigits
  | .ascii, .blank => asciiBlanks
  | .ascii, .word => asciiWordChars

def isWord : Alphabet → Char → Bool
  | .unicode => Text.isWord
  | .ascii => isAsciiWord

/-- A character and those that differ from it in case at most, possibly with repetitions. -/
def variants : Alphabet → Char → List Char
  | .unicode, c => Text.variants c
  | .ascii, c => [c, c.toLower, c.toUpper]

/-- The characters that differ from another one only in case. -/
def cased : Alphabet → CharSet
  | .unicode => Text.cased
  | .ascii => .ofRanges [('A', 'Z'), ('a', 'z')]

/-- A set with all characters that differ from a member in case at most. A set that has all
characters with case, or none of them, stays as it is. -/
def closure (alphabet : Alphabet) (set : CharSet) : CharSet :=
  let touched := set.inter alphabet.cased
  if touched = .none ∨ touched = alphabet.cased then set
  else set.union (.ofChars (touched.toList.flatMap alphabet.variants))

end Alphabet

end ContentBlocking.Pattern
