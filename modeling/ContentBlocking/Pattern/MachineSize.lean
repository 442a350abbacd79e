import ContentBlocking.Pattern.Beginning
import ContentBlocking.Pattern.Outline
import ContentBlocking.Pattern.SetMachine
import ContentBlocking.Pattern.TextMachine

/-!
# The sizes of the machines for a pattern

A pattern is searched by two machines that read bytes, one from the front and one from the back. It
is refused if one of them is too large. No machine is needed for a choice between very many texts,
because a table of the texts is searched instead, nor for a pattern of which a few texts tell
whether it occurs. These are never refused.
-/

namespace ContentBlocking.Pattern

def repetitionGrowth (body : Growth) (consumes : Bool) (counts : Counts) : Growth :=
  match counts.most with
  | none =>
      if counts.least = 0 then
        if consumes then .inTurn [.fork 2, body]
        else .inTurn [body, .fork 2, .fork 2, .plain 1]
      else .inTurn [body.copies counts.least, .fork 2]
  | some most =>
      if counts.least = 0 && most = 1 then .inTurn [.fork 2, body, .plain 1]
      else if counts.least = most then body.copies most
      else
        .inTurn
          [if counts.least = 0 then .plain 1 else body.copies counts.least, .plain 1,
            ((Growth.fork 2).append body).copies (most - counts.least)]

/-- What a choice adds to a machine. The first two alternatives are there before it is known that
there is a fork. -/
def choiceGrowth (alternatives : List Growth) : Growth :=
  .inTurn (alternatives.take 2 ++ [.fork alternatives.length, .plain 1] ++ alternatives.drop 2)

/-- The texts of alternatives that are all texts, in the byte order of a direction. -/
def textsOf? (direction : Direction) (alternatives : List Outline) : Option (List (List Nat)) :=
  alternatives.mapM fun
    | .literal text =>
        let bytes := byteForms text
        some (if direction = .forward then bytes else bytes.reverse)
    | _ => none

namespace Outline

mutual

/-- What an outline adds to a machine. Only a machine that reads forward notes where groups begin
and end. -/
def growth (direction : Direction) : Outline → Growth
  | .empty | .look _ => .plain 1
  | .literal text => .plain (byteForms text).length
  | .chars _ set => setGrowth direction set
  | .seq parts =>
      let parts := growths direction parts
      .inTurn (if direction = .forward then parts else parts.reverse)
  | .choice alternatives =>
      match textsOf? direction alternatives with
      | some texts => textsGrowth texts
      | none => choiceGrowth (growths direction alternatives)
  | .group body =>
      if direction = .forward then .inTurn [.plain 1, body.growth direction, .plain 1]
      else body.growth direction
  | .repetition body counts =>
      repetitionGrowth (body.growth direction) (body.minLength.any (0 < ·)) counts

def growths (direction : Direction) : List Outline → List Growth
  | [] => []
  | first :: rest => first.growth direction :: growths direction rest

end

/-- Whether one of the parts that come first is bound to its place. For each part it is known
whether it is bound and whether it is silent, so that the next part comes first too. -/
def leadsBound : List (Bool × Bool) → Bool
  | [] => false
  | (bound, silent) :: rest => bound || (silent && leadsBound rest)

mutual

/-- Whether an outline can only begin at the start of the text or, read from the back, only end at
its end. -/
def isBound (direction : Direction) : Outline → Bool
  | .look condition =>
      condition = (if direction = .forward then Look.textStart else Look.textEnd)
  | .seq parts =>
      let bindings := partBindings direction parts
      leadsBound (if direction = .forward then bindings else bindings.reverse)
  | .choice alternatives => (partBindings direction alternatives).all Prod.fst
  | .group body => body.isBound direction
  | .repetition body counts => 0 < counts.least && body.isBound direction
  | _ => false

/-- For each outline, whether it is bound to its place and whether it is silent. -/
def partBindings (direction : Direction) : List Outline → List (Bool × Bool)
  | [] => []
  | first :: rest =>
      (first.isBound direction, first.isSilent) :: partBindings direction rest

end

/-- The machine that searches for an outline. It first skips any bytes, unless the outline is bound
to its place, and ends with a state that tells that the outline was found. -/
def machine (direction : Direction) (outline : Outline) : Machine :=
  let skipping : Growth :=
    if outline.isBound direction then .plain 1 else .inTurn [.fork 2, .plain 1, .arrows 1]
  (Growth.inTurn [skipping, (group outline).growth direction, .plain 1]).applyTo .empty

def isText : Outline → Bool
  | .literal _ => true
  | _ => false

def tableLength : Nat := 3000

/-- Whether an outline is a choice between so many texts that a table is used. -/
def isTable : Outline → Bool
  | .choice alternatives => tableLength ≤ alternatives.length && alternatives.all isText
  | _ => false

def hasSmallMachines (outline : Outline) : Bool :=
  !(outline.machine .forward).isTooLarge && !(outline.machine .backward).isTooLarge

/-- Whether an outline needs no machines or has machines that are small enough. -/
def fits (outline : Outline) : Bool :=
  outline.isTable || outline.isFoundByTexts || outline.hasSmallMachines

end Outline

end ContentBlocking.Pattern
