import ContentBlocking.Text.CharSet

/-!
# Byte forms of sets of characters

In UTF-8 a character is written with one byte to four. The forms of the members of a set fall into
stretches in which every byte ranges over an interval of its own; this module lists them, in the
order of the characters.
-/

namespace ContentBlocking.Pattern

open ContentBlocking.Text

abbrev ByteRange := Nat × Nat

/-- Byte forms of one length: a range for each byte in turn. -/
abbrev ByteStretch := List ByteRange

/-- The numbers from the first one to the last one, written with so many digits to the base 64
behind a leading digit of any size, as stretches in which every digit ranges over an interval of its
own. The first and the last leading digit are split off if not all numbers with them are there. -/
def stretchesBetween : Nat → Nat → Nat → List ByteStretch
  | 0, first, last => [[(first, last)]]
  | more + 1, first, last =>
      let size := Nat.pow 64 (more + 1)
      let lead := first / size
      let lastLead := last / size
      let startsWhole := first % size = 0
      let endsWhole := last % size = size - 1
      if lead = lastLead then
        (stretchesBetween more (first % size) (last % size)).map ((lead, lead) :: ·)
      else
        let middle := if startsWhole then lead else lead + 1
        let lastMiddle := if endsWhole then lastLead else lastLead - 1
        (if startsWhole then []
          else (stretchesBetween more (first % size) (size - 1)).map ((lead, lead) :: ·)) ++
          (if middle ≤ lastMiddle then
            [(middle, lastMiddle) :: List.replicate (more + 1) (0, 63)] else []) ++
          (if endsWhole then []
            else (stretchesBetween more 0 (last % size)).map ((lastLead, lastLead) :: ·))

/-- The code points that are written with equally many bytes: the first and the last one, what is
added to the first digit, and the number of further digits. -/
def byteLengths : List (Nat × Nat × Nat × Nat) :=
  [(0, 0x7f, 0, 0), (0x80, 0x7ff, 0xc0, 1), (0x800, 0xd7ff, 0xe0, 2), (0xe000, 0xffff, 0xe0, 2),
   (0x10000, 0x10ffff, 0xf0, 3)]

def markBytes (lead : Nat) : ByteStretch → ByteStretch
  | [] => []
  | (first, last) :: rest =>
      (lead + first, lead + last) :: rest.map fun (first, last) => (0x80 + first, 0x80 + last)

/-- The byte forms of the characters in a range of code points. Surrogates have none. -/
def stretchesOfRange (first last : Nat) : List ByteStretch :=
  byteLengths.flatMap fun (least, most, lead, more) =>
    let first := max first least
    let last := min last most
    if first ≤ last then
      (stretchesBetween more first last).map (markBytes lead)
    else []

def byteStretches (set : CharSet) : List ByteStretch :=
  set.ranges.flatMap fun (first, last) => stretchesOfRange first last

def byteForm (c : Char) : List Nat :=
  (stretchesOfRange c.toNat c.toNat).flatMap fun stretch => stretch.map Prod.fst

def byteForms (text : List Char) : List Nat := text.flatMap byteForm

end ContentBlocking.Pattern
