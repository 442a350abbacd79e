import ContentBlocking.Pattern.ByteForm
import ContentBlocking.Pattern.Outline
import ContentBlocking.Text.CharSet.Distances

/-!
# What the texts of a pattern begin with

For many patterns there are a few byte texts with which everything that is described begins. If each
of them is all that a text of the pattern needs, then the pattern occurs where one of these texts
does, so that no machine has to be built. Which texts are listed is a matter of limits: a list that
would be too long is given up, and a text that would be too long is cut off.
-/

namespace ContentBlocking.Pattern

open ContentBlocking.Text

/-- A text with which something begins. -/
structure Beginning where
  bytes : List Nat
  /-- Whether nothing else is needed behind the text. -/
  whole : Bool
deriving Repr, DecidableEq

namespace Beginning

/-- The empty text, which begins everything. -/
def nothing : Beginning := ⟨[], true⟩

/-- Notes that something else is needed. -/
def unfinished (beginning : Beginning) : Beginning := { beginning with whole := false }

def keep (count : Nat) (beginning : Beginning) : Beginning :=
  if beginning.bytes.length ≤ count then beginning else ⟨beginning.bytes.take count, false⟩

/-- A text that is needed behind another one. Nothing comes behind a text that has been cut off. -/
def followedBy (left : Beginning) (right : List Beginning) : List Beginning :=
  if left.whole then right.map fun next => ⟨left.bytes ++ next.bytes, next.whole⟩ else [left]

def joinNeighbours : List Beginning → List Beginning
  | [] => []
  | first :: rest =>
      match joinNeighbours rest with
      | next :: others =>
          if first.bytes = next.bytes then ⟨first.bytes, first.whole && next.whole⟩ :: others
          else first :: next :: others
      | [] => [first]

/-- Leaves out the texts that begin with one of those in front of them. -/
def dropLonger (kept : List (List Nat)) : List Beginning → List Beginning
  | [] => []
  | first :: rest =>
      if kept.any (·.isPrefixOf first.bytes) then dropLonger kept rest
      else first :: dropLonger (first.bytes :: kept) rest

end Beginning

/-- The texts with which something begins, in the order in which they are tried, unless there are
too many of them. -/
abbrev Beginnings := Option (List Beginning)

namespace Beginnings

/-- The most characters of a set that are listed. -/
def setLimit : Nat := 10

def repetitionLimit : Nat := 10

def lengthLimit : Nat := 100

/-- The most texts that are listed. -/
def totalLimit : Nat := 250

def nothing : Beginnings := some [.nothing]

def unfinished (beginnings : Beginnings) : Beginnings := beginnings.map (·.map .unfinished)

def ofText (text : List Char) : Beginnings :=
  some [Beginning.keep lengthLimit ⟨byteForms text, true⟩]

def ofSet (set : CharSet) : Beginnings :=
  let size := (set.ranges.map fun (first, last) => last + 1 - first).foldl (· + ·) 0
  if size ≤ setLimit then some (set.toList.map fun c => ⟨byteForm c, true⟩) else none

def followedBy (left right : Beginnings) : Beginnings :=
  match left with
  | none => none
  | some left =>
      match right.filter fun right => left.length * right.length ≤ totalLimit with
      | none => if left.any (·.bytes.isEmpty) then none else some (left.map .unfinished)
      | some right =>
          some ((Beginning.joinNeighbours (left.flatMap (·.followedBy right))).map
            (.keep lengthLimit))

/-- The beginnings of one thing and then another one, if that can matter. -/
def extend (left right : Beginnings) : Beginnings :=
  if (left.getD []).any Beginning.whole then left.followedBy right else left

/-- The beginnings of one of two things. Of too many texts only the first few bytes are kept. -/
def either (left right : Beginnings) : Beginnings :=
  match left, right with
  | some left, some right =>
      let short (beginnings : List Beginning) : List Beginning :=
        Beginning.joinNeighbours (beginnings.map (.keep 4))
      let (left, right) :=
        if left.length + right.length ≤ totalLimit then (left, right) else (short left, short right)
      if left.length + right.length ≤ totalLimit then
        some (Beginning.joinNeighbours (left ++ right))
      else none
  | _, _ => none

def copies (body : Beginnings) (count : Nat) : Beginnings :=
  let written := (List.replicate (min count repetitionLimit) body).foldl extend nothing
  if repetitionLimit < count then written.unfinished else written

def ofRepetition (body : Beginnings) (counts : Counts) : Beginnings :=
  if counts.least = 0 then
    let body := if counts.most = some 1 then body else body.unfinished
    if counts.few then nothing.either body else body.either nothing
  else
    let written := body.copies counts.least
    if counts.most = some counts.least then written else written.unfinished

end Beginnings

namespace Beginning

/-- The bytes that all of the given lists begin with. -/
def commonPrefix : List (List Nat) → List Nat
  | [] => []
  | [only] => only
  | first :: rest =>
      (first.zip (commonPrefix rest)).takeWhile (fun (left, right) => left = right)
        |>.map Prod.fst

def rareBytes : CharSet :=
  .ofDistances "0 a 1 2 1 12 1 7 2 2 7 6 2 24 1 1 9 2 5 1 5 1 2 2 1 3 5 b 1 20 1 3 3 1 5 1"

def startsRarely : List Nat → Bool
  | [] => false
  | first :: _ => rareBytes.mem (.ofNat first)

/-- Cuts texts off to so many bytes, each time that there are more of them than the limit. -/
def shorten : List (Nat × Nat) → List Beginning → List Beginning
  | [], beginnings => beginnings
  | (count, limit) :: rest, beginnings =>
      if beginnings.length ≤ limit then beginnings
      else shorten rest (dropLonger [] (beginnings.map (keep count)))

/-- Whether a search for all of the given texts tells whether what begins with them occurs. A search
for a single byte or for what they have in common is preferred if it is quick, and so is a search
for a few short texts. -/
def areEnough (beginnings : List Beginning) : Bool :=
  let needed := dropLonger [] beginnings
  let shared := commonPrefix (needed.map Beginning.bytes)
  if beginnings.isEmpty || beginnings.any (·.bytes.isEmpty) then false
  else if 1 < beginnings.length && shared.length ≤ 3 && startsRarely shared then
    (needed.map (keep 1)).all whole
  else
    let quick := needed.all whole && needed.length ≤ 16
    let needed :=
      if 4 < shared.length || (1 < shared.length && !quick) then
        joinNeighbours (needed.map (keep shared.length))
      else needed
    let shortened := shorten [(5, 10), (4, 10), (3, 64), (2, 64), (1, 10)] needed
    needed.all whole &&
      (shortened.all whole || shortened.any (·.bytes.length ≤ 2) || 64 < shortened.length)

end Beginning

namespace Outline

mutual

def beginnings : Outline → Beginnings
  | .empty | .look _ => .nothing
  | .literal text => .ofText text
  | .chars _ set => .ofSet set
  | .seq parts => (eachBeginnings parts).foldl .extend .nothing
  | .choice alternatives => (eachBeginnings alternatives).foldl .either (some [])
  | .group body => body.beginnings
  | .repetition body counts => .ofRepetition body.beginnings counts

def eachBeginnings : List Outline → List Beginnings
  | [] => []
  | first :: rest => first.beginnings :: eachBeginnings rest

end

mutual

/-- Whether an outline consists of texts and sets only, without conditions and groups. -/
def isPlain : Outline → Bool
  | .empty | .literal _ | .chars _ _ => true
  | .look _ | .group _ => false
  | .seq parts | .choice parts => arePlain parts
  | .repetition body _ => body.isPlain

def arePlain : List Outline → Bool
  | [] => true
  | first :: rest => first.isPlain && arePlain rest

end

/-- Whether a search for a few texts tells whether an outline occurs. -/
def isFoundByTexts (outline : Outline) : Bool :=
  outline.isPlain &&
    Beginning.areEnough (Beginning.joinNeighbours (outline.beginnings.getD []))

end Outline

end ContentBlocking.Pattern
