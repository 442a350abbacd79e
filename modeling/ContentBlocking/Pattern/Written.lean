import ContentBlocking.Pattern.Basic

/-!
# Written patterns as trees

A written pattern is read into a tree before anyone decides whether it is too large. The tree says
what is repeated how often; the pattern for it has the repetitions written out.
-/

namespace ContentBlocking.Pattern

open ContentBlocking.Text

structure Counts where
  least : Nat
  /-- The bound, if there is one. -/
  most : Option Nat
  /-- Whether few repetitions are preferred to many. This does not change which texts a pattern
  occurs in. -/
  few : Bool
deriving Repr, DecidableEq

inductive Written where
  | empty
  | look (condition : Look)
  /-- One character of a set, which is written with the characters of an alphabet. -/
  | set (alphabet : Alphabet) (members : CharSet)
  | seq (parts : List Written)
  | choice (alternatives : List Written)
  /-- A group whose place in the text is of interest. -/
  | group (body : Written)
  | repetition (body : Written) (counts : Counts)

namespace Written

mutual

/-- The pattern for a tree. What may not occur at all is not written out. -/
def toPattern : Written → Pattern
  | .empty => .empty
  | .look condition => .look condition
  | .set _ members => .one members
  | .seq parts => Pattern.sequence (toPatterns parts)
  | .choice alternatives => Pattern.choice (toPatterns alternatives)
  | .group body => body.toPattern
  | .repetition body counts =>
      if counts.most = some 0 then .empty else repeated body.toPattern counts.least counts.most

def toPatterns : List Written → List Pattern
  | [] => []
  | first :: rest => first.toPattern :: toPatterns rest

end

end Written

end ContentBlocking.Pattern
