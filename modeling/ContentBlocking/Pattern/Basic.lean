import ContentBlocking.Pattern.Alphabet

/-!
# Patterns

A pattern describes texts. `Spans` says which stretches of a text a pattern describes; it takes
what stands before and after the stretch into account, because anchors and word boundaries look at
the neighbouring characters. `OccursIn` says that some stretch of a text is described.
-/

namespace ContentBlocking

open ContentBlocking.Text

namespace Pattern

inductive Boundary where
  /-- There is a word character on one side only. -/
  | edge
  /-- There are word characters on both sides or on none. -/
  | inside
  /-- A word starts here. -/
  | start
  /-- A word ends here. -/
  | finish
  /-- No word character stands before the place. -/
  | startHalf
  /-- No word character stands after the place. -/
  | endHalf
deriving Repr, DecidableEq

/-- A condition on a place in a text, which consumes nothing. -/
inductive Look where
  | textStart
  | textEnd
  | lineStart
  | lineEnd
  /-- A line starts here, where a carriage return ends lines too. -/
  | returnLineStart
  /-- A line ends here, where a carriage return ends lines too. -/
  | returnLineEnd
  | boundary (kind : Boundary) (alphabet : Alphabet)
deriving Repr, DecidableEq

/-- Whether a boundary lies between two places of which it is known whether they are in words. -/
def Boundary.holds (before after : Bool) : Boundary → Bool
  | .edge => before != after
  | .inside => before == after
  | .start => !before && after
  | .finish => before && !after
  | .startHalf => !before
  | .endHalf => !after

/-- Whether a condition holds between two neighbours; a neighbour is absent at an end of the text. A
line does not end between a carriage return and a line feed. -/
def Look.holds (before after : Option Char) : Look → Bool
  | .textStart => before.isNone
  | .textEnd => after.isNone
  | .lineStart => before.all (fun c => c = '\n')
  | .lineEnd => after.all (fun c => c = '\n')
  | .returnLineStart =>
      before.all (fun c => c = '\n' || (c = '\r' && after ≠ some '\n'))
  | .returnLineEnd =>
      after.all (fun c => c = '\r' || (c = '\n' && before ≠ some '\r'))
  | .boundary kind alphabet =>
      kind.holds (before.any alphabet.isWord) (after.any alphabet.isWord)

end Pattern

inductive Pattern where
  /-- The empty stretch. -/
  | empty
  /-- The empty stretch, at a place with the condition. -/
  | look (condition : Pattern.Look)
  /-- One character of the set. -/
  | one (set : CharSet)
  /-- A stretch of the first pattern followed by one of the second. -/
  | seq (first second : Pattern)
  /-- A stretch of either pattern. -/
  | either (left right : Pattern)
  /-- Two stretches of the pattern, one after the other. -/
  | double (body : Pattern)
  /-- One or more stretches of the pattern, one after the other. -/
  | plus (body : Pattern)
deriving Repr, DecidableEq

namespace Pattern

/-- `pattern.Spans before taken after` says that the pattern describes the stretch `taken` where
`before` stands in front of it and `after` behind it. -/
inductive Spans : Pattern → List Char → List Char → List Char → Prop where
  | empty {before after : List Char} : Spans .empty before [] after
  | look {condition : Look} {before after : List Char}
      (holds : condition.holds before.getLast? after.head? = true) :
      Spans (.look condition) before [] after
  | one {set : CharSet} {before after : List Char} {c : Char} (member : set.mem c = true) :
      Spans (.one set) before [c] after
  | seq {first second : Pattern} {before left right after : List Char}
      (head : Spans first before left (right ++ after))
      (tail : Spans second (before ++ left) right after) :
      Spans (.seq first second) before (left ++ right) after
  | left {left right : Pattern} {before taken after : List Char}
      (spans : Spans left before taken after) :
      Spans (.either left right) before taken after
  | right {left right : Pattern} {before taken after : List Char}
      (spans : Spans right before taken after) :
      Spans (.either left right) before taken after
  | double {body : Pattern} {before taken after : List Char}
      (spans : Spans (.seq body body) before taken after) :
      Spans (.double body) before taken after
  | once {body : Pattern} {before taken after : List Char}
      (spans : Spans body before taken after) :
      Spans (.plus body) before taken after
  | again {body : Pattern} {before left right after : List Char}
      (head : Spans body before left (right ++ after))
      (tail : Spans (.plus body) (before ++ left) right after) :
      Spans (.plus body) before (left ++ right) after

/-- Some stretch of the text is described by the pattern. -/
def OccursIn (pattern : Pattern) (text : List Char) : Prop :=
  ∃ before taken after, text = before ++ taken ++ after ∧ pattern.Spans before taken after

def optional (pattern : Pattern) : Pattern := .either .empty pattern

def star (pattern : Pattern) : Pattern := optional (.plus pattern)

def sequence : List Pattern → Pattern
  | [] => .empty
  | [only] => only
  | first :: second :: rest => .seq first (sequence (second :: rest))

/-- One of the patterns; the empty one if there are none. -/
def choice : List Pattern → Pattern
  | [] => .empty
  | [only] => only
  | first :: second :: rest => .either first (choice (second :: rest))

/-- The pattern a given number of times. Halving the number keeps the result small. -/
def times (pattern : Pattern) (count : Nat) : Pattern :=
  if count = 0 then .empty
  else if count = 1 then pattern
  else if count % 2 = 0 then .double (times pattern (count / 2))
  else .seq pattern (.double (times pattern (count / 2)))
termination_by count
decreasing_by all_goals omega

/-- Whether the pattern asks for no character at all. -/
def silent : Pattern → Bool
  | .empty | .look _ => true
  | .one _ => false
  | .seq first second | .either first second => first.silent && second.silent
  | .double body | .plus body => body.silent

def between (pattern : Pattern) (least : Nat) : Option Nat → Pattern
  | none =>
      if least = 0 then star pattern
      else if least = 1 then .plus pattern
      else .seq (times pattern (least - 1)) (.plus pattern)
  | some most =>
      if least = 0 then times (optional pattern) most
      else if most ≤ least then times pattern least
      else .seq (times pattern least) (times (optional pattern) (most - least))

/-- The pattern repeated. A pattern that asks for no character describes the same stretches once as
many times, so it is never repeated more than once. -/
def repeated (pattern : Pattern) (least : Nat) (most : Option Nat) : Pattern :=
  if pattern.silent then between pattern (min least 1) (some ((most.map (min 1)).getD 1))
  else between pattern least most

end Pattern

end ContentBlocking
