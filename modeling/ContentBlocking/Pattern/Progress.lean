import ContentBlocking.Pattern.Basic

/-!
# Searching a text for a pattern

The search reads the text once, from left to right. Its state is the pattern itself with a mark at
every character place that the last character read has just satisfied in some attempt; all
attempts, wherever they started, share these marks. A part of the pattern without marks is kept as
it is, and the halves of a doubled pattern are kept as one while they have the same marks. So
reading a character takes time for the places that attempts have reached and for those where they
go on, but not for the rest of the pattern, nor for each copy of what is repeated often.
-/

namespace ContentBlocking.Pattern

open ContentBlocking.Text

/-- A pattern with marks at character places. -/
inductive Progress where
  /-- The pattern without marks. -/
  | idle (pattern : Pattern)
  /-- One character of the set, with a mark. -/
  | taken (set : CharSet)
  | seq (first second : Progress)
  | either (left right : Progress)
  | double (first second : Progress)
  /-- A doubled pattern with the same marks in both halves. -/
  | twin (half : Progress)
  | plus (body : Progress)

/-- Whether the pattern describes the empty stretch between two neighbours. -/
def passes (before after : Option Char) : Pattern → Bool
  | .empty => true
  | .look condition => condition.holds before after
  | .one _ => false
  | .seq first second => first.passes before after && second.passes before after
  | .either left right => left.passes before after || right.passes before after
  | .double body | .plus body => body.passes before after

namespace Progress

def mark (set : CharSet) (here : Bool) : Progress :=
  if here then .taken set else .idle (.one set)

def followedBy : Progress → Progress → Progress
  | .idle first, .idle second => .idle (.seq first second)
  | first, second => .seq first second

def orElse : Progress → Progress → Progress
  | .idle left, .idle right => .idle (.either left right)
  | left, right => .either left right

def doubled : Progress → Progress → Progress
  | .idle body, .idle _ => .idle (.double body)
  | first, second => .double first second

/-- The same progress in both halves of a doubled pattern. -/
def both : Progress → Progress
  | .idle body => .idle (.double body)
  | half => .twin half

def again : Progress → Progress
  | .idle body => .idle (.plus body)
  | body => .plus body

/-- Whether some attempt is at the end of the pattern at the place between two neighbours. New
attempts begin at that place if `fresh` is set. Where both halves of a doubled pattern have the same
marks, the second half is left exactly if the first one is. -/
def leaves (before after : Option Char) : Progress → Bool → Bool
  | .idle pattern, fresh => fresh && pattern.passes before after
  | .taken _, _ => true
  | .seq first second, fresh => second.leaves before after (first.leaves before after fresh)
  | .either left right, fresh =>
      left.leaves before after fresh || right.leaves before after fresh
  | .double first second, fresh => second.leaves before after (first.leaves before after fresh)
  | .twin half, fresh => half.leaves before after fresh
  | .plus body, fresh => body.leaves before after fresh

/-- The progress of new attempts once they have read one character, which follows the place with
the neighbour `before`, and whether one of them is at the end of the pattern before it reads the
character. Attempts begin if `fresh` is set. -/
def enter (before : Option Char) (c : Char) : Pattern → Bool → Progress × Bool
  | pattern, false => (.idle pattern, false)
  | .empty, true => (.idle .empty, true)
  | .look condition, true => (.idle (.look condition), condition.holds before (some c))
  | .one set, true => (mark set (set.mem c), false)
  | .seq first second, true =>
      let (head, between) := enter before c first true
      let (tail, out) := enter before c second between
      (head.followedBy tail, out)
  | .either left right, true =>
      let (first, out) := enter before c left true
      let (second, otherOut) := enter before c right true
      (first.orElse second, out || otherOut)
  | .double body, true =>
      let (half, out) := enter before c body true
      (if out then half.both else half.doubled (.idle body), out)
  | .plus body, true =>
      let (inner, out) := enter before c body true
      (inner.again, out)

/-- The progress once one more character has been read, which follows the place with the neighbour
`before`, and whether some attempt is at the end of the pattern before it reads the character. New
attempts begin at that place if `fresh` is set. -/
def step (before : Option Char) (c : Char) : Progress → Bool → Progress × Bool
  | .idle pattern, fresh => enter before c pattern fresh
  | .taken set, fresh => (mark set (fresh && set.mem c), true)
  | .seq first second, fresh =>
      let (head, between) := first.step before c fresh
      let (tail, out) := second.step before c between
      (head.followedBy tail, out)
  | .either left right, fresh =>
      let (first, out) := left.step before c fresh
      let (second, otherOut) := right.step before c fresh
      (first.orElse second, out || otherOut)
  | .double first second, fresh =>
      let (head, between) := first.step before c fresh
      let (tail, out) := second.step before c between
      (head.doubled tail, out)
  | .twin half, fresh =>
      let (head, out) := half.step before c fresh
      (if out = fresh then head.both else head.doubled (half.step before c out).1, out)
  | .plus body, fresh =>
      let (inner, out) := body.step before c (fresh || body.leaves before (some c) false)
      (inner.again, out)

/-- Whether an attempt that has begun, or begins at a later place, describes a stretch. -/
def finds (progress : Progress) (before : Option Char) : List Char → Bool
  | [] => progress.leaves before none true
  | c :: rest =>
      let (next, out) := progress.step before c true
      out || next.finds (some c) rest

end Progress

/-- Whether some stretch of the text is described by the pattern. -/
def occursIn (pattern : Pattern) (text : List Char) : Bool :=
  (Progress.idle pattern).finds none text

end ContentBlocking.Pattern
