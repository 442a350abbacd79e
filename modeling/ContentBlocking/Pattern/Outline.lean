import ContentBlocking.Pattern.Written

/-!
# Outlines of patterns

The outline of a written pattern is what is left of it before a machine is built: neighbouring
characters are joined into texts, sequences and alternatives that stand directly inside each other
are flattened, alternative characters become one set, what begins all alternatives is taken out in
front of them, and repetitions that mean nothing are dropped.
-/

namespace ContentBlocking.Pattern

open ContentBlocking.Text

inductive Outline where
  | empty
  | look (condition : Look)
  /-- A text that is not empty. -/
  | literal (text : List Char)
  /-- One character of a set that does not have just one. The set without members counts as one of
  ASCII characters. -/
  | chars (alphabet : Alphabet) (set : CharSet)
  | seq (parts : List Outline)
  | choice (alternatives : List Outline)
  | group (body : Outline)
  | repetition (body : Outline) (counts : Counts)

namespace Outline

/-! ## Comparing -/

mutual

/-- Whether two outlines are the same. Every group has its own place, so no two of them are. -/
def same : Outline → Outline → Bool
  | .empty, .empty => true
  | .look left, .look right => left = right
  | .literal left, .literal right => left = right
  | .chars alphabet left, .chars other right => alphabet = other && left = right
  | .seq left, .seq right => sameAll left right
  | .choice left, .choice right => sameAll left right
  | .repetition left counts, .repetition right others => counts = others && left.same right
  | _, _ => false

def sameAll : List Outline → List Outline → Bool
  | [], [] => true
  | left :: lefts, right :: rights => left.same right && sameAll lefts rights
  | _, _ => false

end

def commonLength : List Outline → List Outline → Nat
  | left :: lefts, right :: rights => if left.same right then commonLength lefts rights + 1 else 0
  | _, _ => 0

/-! ## Lengths -/

mutual

/-- Whether nothing but the empty stretch is described. -/
def isSilent : Outline → Bool
  | .empty | .look _ => true
  | .literal _ | .chars _ _ => false
  | .seq parts | .choice parts => areSilent parts
  | .group body => body.isSilent
  | .repetition body counts => counts.most.isSome && body.isSilent

def areSilent : List Outline → Bool
  | [] => true
  | first :: rest => first.isSilent && areSilent rest

end

mutual

/-- The least number of characters that are described, if there is anything. -/
def minLength : Outline → Option Nat
  | .empty | .look _ => some 0
  | .literal text => some text.length
  | .chars _ set => if set = .none then none else some 1
  | .seq parts => minLengths 0 (· + ·) parts
  | .choice [] => none
  | .choice (first :: rest) =>
      match first.minLength with
      | none => none
      | some length => minLengths length min rest
  | .group body => body.minLength
  | .repetition body counts => body.minLength.map (· * counts.least)

def minLengths (length : Nat) (join : Nat → Nat → Nat) : List Outline → Option Nat
  | [] => some length
  | first :: rest =>
      match first.minLength with
      | none => none
      | some other => minLengths (join length other) join rest

end

/-! ## Putting together -/

def ofSet (alphabet : Alphabet) (set : CharSet) : Outline :=
  match set.sole? with
  | some c => .literal [c]
  | none => .chars (if set = .none then .ascii else alphabet) set

/-- Puts a part in front of others, to which it is joined if both are texts. -/
def cons : Outline → List Outline → List Outline
  | .literal left, .literal right :: rest => .literal (left ++ right) :: rest
  | part, rest => part :: rest

/-- Puts what a part consists of in front of others. -/
def prepend : Outline → List Outline → List Outline
  | .empty, rest => rest
  | .seq parts, rest => parts.foldr cons rest
  | part, rest => cons part rest

def ofSequence (parts : List Outline) : Outline :=
  match parts.foldr prepend [] with
  | [] => .empty
  | [only] => only
  | parts => .seq parts

def charOf? : Outline → Option CharSet
  | .literal [c] => some (.single c)
  | _ => none

def setOf? : Outline → Option CharSet
  | .chars _ set => some set
  | _ => none

def partsOf? : Outline → Option (List Outline)
  | .seq parts => some parts
  | _ => none

def alternativesOf : Outline → List Outline
  | .choice alternatives => alternatives
  | other => [other]

/-- The set of alternatives that are all characters or all sets. -/
def joined? (alternatives : List Outline) : Option CharSet :=
  ((alternatives.mapM charOf?).or (alternatives.mapM setOf?)).map .unionAll

/-- The outline for alternatives of which none consists of others. -/
def ofAlternatives (alternatives : List Outline) : Outline :=
  match joined? alternatives with
  | some set => ofSet .unicode set
  | none => .choice alternatives

/-- The number of parts with which all alternatives begin, if all are sequences. -/
def sharedLength (alternatives : List Outline) : Nat :=
  match alternatives.mapM partsOf? with
  | some (first :: rest) =>
      rest.foldl (fun length parts => min length (commonLength first parts)) first.length
  | _ => 0

def ofChoice (alternatives : List Outline) : Outline :=
  match alternatives.flatMap alternativesOf with
  | [only] => only
  | alternatives =>
      match (alternatives.mapM partsOf?).getD [], sharedLength alternatives with
      | first :: rest, shared + 1 =>
          let remaining :=
            (first :: rest).map fun parts => ofSequence (parts.drop (shared + 1))
          ofSequence
            (first.take (shared + 1) ++ [ofAlternatives (remaining.flatMap alternativesOf)])
      | _, _ => ofAlternatives alternatives

/-- The outline for a repetition. What is silent is repeated once at most. -/
def ofRepetition (body : Outline) (counts : Counts) : Outline :=
  let silent := body.isSilent
  let least := if silent then min counts.least 1 else counts.least
  let most := if silent then some (min (counts.most.getD 1) 1) else counts.most
  if least = 0 && most = some 0 then .empty
  else if least = 1 && most = some 1 then body
  else .repetition body ⟨least, most, counts.few⟩

end Outline

namespace Written

mutual

def outline : Written → Outline
  | .empty => .empty
  | .look condition => .look condition
  | .set alphabet members => .ofSet alphabet members
  | .seq parts => .ofSequence (outlines parts)
  | .choice alternatives => .ofChoice (outlines alternatives)
  | .group body => .group body.outline
  | .repetition body counts => .ofRepetition body.outline counts

def outlines : List Written → List Outline
  | [] => []
  | first :: rest => first.outline :: outlines rest

end

end Written

end ContentBlocking.Pattern
