/-!
# Symbols of JSON texts

A JSON text usually consists of characters. A text that comes as bytes may also hold bytes that
belong to no character; they do no harm inside a string that nobody looks at.
-/

namespace ContentBlocking.Json

/-- What a text consists of. -/
inductive Symbol where
  | char (c : Char)
  /-- A byte that is part of no character. -/
  | stray
deriving DecidableEq, Repr

namespace Symbol

def ofString (text : String) : List Symbol := text.toList.map .char

def byteCount : Symbol → Nat
  | .char c => c.utf8Size
  | .stray => 1

def byteCountAll : List Symbol → Nat
  | [] => 0
  | first :: rest => first.byteCount + byteCountAll rest

/-- The low six bits of a byte that continues a character. -/
def continuation? (byte : UInt8) : Option Nat :=
  if 0x80 ≤ byte && byte < 0xc0 then some (byte.toNat - 0x80) else none

/-- The character of a code point that has been written in `size` bytes. Longer forms than needed
are no characters. -/
def charOfSize? (size code : Nat) : Option Char :=
  if code.isValidChar && (Char.ofNat code).utf8Size = size then some (Char.ofNat code) else none

/-- The character with which a list of bytes begins. -/
def decodeChar? : List UInt8 → Option Char
  | [] => none
  | first :: rest =>
      if first < 0x80 then some (Char.ofNat first.toNat)
      else if first < 0xc0 then none
      else if first < 0xe0 then do
        let second ← rest[0]?.bind continuation?
        charOfSize? 2 ((first.toNat - 0xc0) * 64 + second)
      else if first < 0xf0 then do
        let second ← rest[0]?.bind continuation?
        let third ← rest[1]?.bind continuation?
        charOfSize? 3 (((first.toNat - 0xe0) * 64 + second) * 64 + third)
      else if first < 0xf8 then do
        let second ← rest[0]?.bind continuation?
        let third ← rest[1]?.bind continuation?
        let fourth ← rest[2]?.bind continuation?
        charOfSize? 4 ((((first.toNat - 0xf0) * 64 + second) * 64 + third) * 64 + fourth)
      else none

/-- Decodes bytes in front of which the symbols `done` have been read, the latest first. -/
def ofBytesAfter (done : List Symbol) (bytes : List UInt8) : List Symbol :=
  match bytes with
  | [] => done.reverse
  | first :: rest =>
      match decodeChar? (first :: rest) with
      | some c => ofBytesAfter (.char c :: done) (rest.drop (c.utf8Size - 1))
      | none => ofBytesAfter (.stray :: done) rest
termination_by bytes.length
decreasing_by all_goals simp only [List.length_drop, List.length_cons]; omega

def ofBytes (bytes : List UInt8) : List Symbol := ofBytesAfter [] bytes

end Symbol

end ContentBlocking.Json
