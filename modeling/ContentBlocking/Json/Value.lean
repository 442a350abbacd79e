import ContentBlocking.Json.Symbol

/-!
# Values read from JSON texts

A text is read into a tree that keeps what the text says about each value, before anyone decides
what the value should be. If the text is malformed or ends too early, the tree ends at that place:
every value around the place is there, but cut. A decoder that walks the tree from left to right
therefore meets the mistakes of the text and its own in the order in which they are written.
-/

namespace ContentBlocking.Json

inductive Fault where
  /-- Something stands where the grammar does not allow it. -/
  | malformed
  /-- The text ends before the value does. -/
  | ended
  /-- A string that is looked at holds bytes that belong to no character. -/
  | notText
deriving DecidableEq, Repr

/-- A piece of a string as it is written. -/
inductive Piece where
  /-- A character, written as itself or by a short escape. -/
  | char (c : Char)
  /-- A byte that belongs to no character. -/
  | stray
  /-- A 16-bit unit, written by an escape with four hexadecimal digits. -/
  | unit (value : Nat)
deriving DecidableEq, Repr

/-- A string as it is written. If it is not closed, `fault` says what ends it. -/
structure WrittenText where
  pieces : List Piece
  fault : Option Fault
deriving DecidableEq, Repr

/-- A number as it is written: `digits * 10 ^ exponent`. -/
structure WrittenNumber where
  negative : Bool
  digits : Nat
  exponent : Int
  /-- Whether there is neither a fraction nor an exponent. -/
  integral : Bool
deriving DecidableEq, Repr

inductive Word where
  | null
  | true
  | false
deriving DecidableEq, Repr

/-- How a list or an object ends. -/
inductive Ending where
  | closed
  | cut (fault : Fault)
deriving DecidableEq, Repr

/-- A value as far as the text has it. -/
inductive Value where
  | word (word : Word)
  | number (number : WrittenNumber)
  | text (text : WrittenText)
  | array (items : List Value) (ending : Ending)
  | object (members : List (WrittenText × Value)) (ending : Ending)
  /-- The beginning of a word. -/
  | brokenWord (word : Word) (fault : Fault)
  /-- The beginning of a number. -/
  | brokenNumber (fault : Fault)
  /-- No value begins here. -/
  | absent (fault : Fault)
deriving Repr

abbrev Member := WrittenText × Value

/-! ## Texts -/

/-- Whether a unit is the first half of a pair that stands for one character. -/
def isHighSurrogate (unit : Nat) : Bool := 0xd800 ≤ unit && unit < 0xdc00

/-- Whether a unit is the second half of a pair that stands for one character. -/
def isLowSurrogate (unit : Nat) : Bool := 0xdc00 ≤ unit && unit < 0xe000

def joinSurrogates (high low : Nat) : Char :=
  Char.ofNat (0x10000 + (high - 0xd800) * 0x400 + (low - 0xdc00))

/-- The characters for which pieces stand, after the characters `done` with the latest first. A half
without its other half is a fault where it stands; a byte that belongs to no character is one at
the end of the string. -/
def decodePieces (fault : Option Fault) (done : List Char) (strayed : Bool) :
    List Piece → Except Fault (List Char)
  | [] =>
      match fault with
      | some fault => .error fault
      | none => if strayed then .error .notText else .ok done.reverse
  | .char c :: rest => decodePieces fault (c :: done) strayed rest
  | .stray :: rest => decodePieces fault done true rest
  | .unit high :: .unit low :: rest =>
      if isLowSurrogate high then .error .malformed
      else if isHighSurrogate high then
        if isLowSurrogate low then decodePieces fault (joinSurrogates high low :: done) strayed rest
        else .error .malformed
      else decodePieces fault (Char.ofNat high :: done) strayed (.unit low :: rest)
  | .unit value :: rest =>
      if isLowSurrogate value then .error .malformed
      else if isHighSurrogate value then
        .error (if rest.isEmpty then fault.getD .malformed else .malformed)
      else decodePieces fault (Char.ofNat value :: done) strayed rest

def WrittenText.decode (text : WrittenText) : Except Fault String :=
  (decodePieces text.fault [] false text.pieces).map String.ofList

/-! ## Values that are skipped -/

def Ending.fault? : Ending → Option Fault
  | .closed => none
  | .cut fault => some fault

/-- What is wrong with a value of which only the grammar matters. The strings in it need not be
decodable, and its numbers may be out of range. -/
def Value.fault? : Value → Option Fault
  | .word _ | .number _ => none
  | .text written => written.fault
  | .array _ ending | .object _ ending => ending.fault?
  | .brokenNumber _ => some .malformed
  | .brokenWord _ fault | .absent fault => some fault

end ContentBlocking.Json
