import ContentBlocking.Pattern.Basic

/-!
# Switches of written patterns

A written pattern can change how the rest of a group is read and what it means.
-/

namespace ContentBlocking.Pattern

open ContentBlocking.Text

/-- The switches that a written pattern can set for the rest of a group. -/
structure Flags where
  ignoreCase : Bool
  /-- `^` and `$` also hold at the ends of lines. -/
  multiLine : Bool := false
  /-- `.` also stands for the characters that end a line. -/
  dotAll : Bool := false
  /-- A carriage return ends a line as well as a line feed, and both together end one line. -/
  returns : Bool := false
  /-- Blanks and comments may stand between the parts of the pattern. -/
  spaced : Bool := false
  /-- Few repetitions are preferred to many, and a question mark asks for many. -/
  few : Bool := false
  alphabet : Alphabet := .unicode
deriving Repr, DecidableEq

namespace Flags

def set (flags : Flags) (letter : Char) (value : Bool) : Flags :=
  match letter with
  | 'i' => { flags with ignoreCase := value }
  | 'm' => { flags with multiLine := value }
  | 's' => { flags with dotAll := value }
  | 'R' => { flags with returns := value }
  | 'x' => { flags with spaced := value }
  | 'U' => { flags with few := value }
  | 'u' => { flags with alphabet := if value then .unicode else .ascii }
  | _ => flags

/-- Applies a written list of switches, of which those after a hyphen are cleared. -/
def change (flags : Flags) (letters : List Char) : Flags :=
  let on := letters.takeWhile (fun c => c ≠ '-')
  let off := letters.dropWhile (fun c => c ≠ '-')
  off.foldl (fun flags letter => flags.set letter false)
    (on.foldl (fun flags letter => flags.set letter true) flags)

def letters : List Char := ['i', 'm', 's', 'R', 'x', 'u', 'U']

/-- Whether a list of switches is well formed: known letters and at most one hyphen, each once, and
no hyphen at the end. -/
def areValid (written : List Char) : Bool :=
  written.all (fun c => c = '-' || letters.contains c) && written.Nodup &&
    written.getLast? ≠ some '-'

def literal (flags : Flags) (c : Char) : CharSet :=
  if flags.ignoreCase then .ofChars (flags.alphabet.variants c) else .single c

def close (flags : Flags) (set : CharSet) : CharSet :=
  if flags.ignoreCase then flags.alphabet.closure set else set

/-- A set or its complement. There are no complements in the ASCII alphabet, because they would
hold bytes that are no characters. -/
def negate? (flags : Flags) (negated : Bool) (set : CharSet) : Option CharSet :=
  if negated && flags.alphabet = .ascii then none else some (set.negateIf negated)

def caret (flags : Flags) : Look :=
  if !flags.multiLine then .textStart else if flags.returns then .returnLineStart else .lineStart

def dollar (flags : Flags) : Look :=
  if !flags.multiLine then .textEnd else if flags.returns then .returnLineEnd else .lineEnd

/-- The characters that `.` stands for. There are none in the ASCII alphabet, because `.` would
stand for bytes that are no characters. -/
def dot? (flags : Flags) : Option CharSet :=
  if flags.alphabet = .ascii then none
  else if flags.dotAll then some .all
  else if flags.returns then some (CharSet.ofChars ['\r', '\n']).compl
  else some (.except '\n')

end Flags

end ContentBlocking.Pattern
