import ContentBlocking.Pattern.Machine

/-!
# Machines for alternative texts

A machine that reads one of several texts reads what they begin with only once. A text is a list of
bytes, in the order in which the machine reads them.
-/

namespace ContentBlocking.Pattern

def insertText (first : Nat) (rest : List Nat) :
    List (Nat × List (List Nat)) → List (Nat × List (List Nat))
  | [] => [(first, [rest])]
  | (other, tails) :: groups =>
      if first = other then (other, rest :: tails) :: groups
      else (other, tails) :: insertText first rest groups

/-- Texts by their first bytes, each with what follows it. -/
def byFirst : List (List Nat) → List (Nat × List (List Nat))
  | [] => []
  | [] :: texts => byFirst texts
  | (first :: rest) :: texts => insertText first rest (byFirst texts)

/-- Texts in the chunks between those that end here. The empty texts in front count as one. -/
def chunks (texts : List (List Nat)) : List (List (List Nat)) :=
  (match texts with
    | [] :: rest => [] :: rest.dropWhile List.isEmpty
    | texts => texts).splitOnP List.isEmpty

def branches (firsts : Nat) : Growth :=
  if firsts = 0 then .none else if firsts = 1 then .plain 1 else .arrows firsts

/-- The states for what is left of texts that begin alike, of at most a given length. An earlier
text is preferred to a later one, so a text that ends here divides the others. -/
def remainders : Nat → List (List Nat) → Growth
  | 0, _ => .none
  | depth + 1, texts =>
      if texts.all List.isEmpty then .none
      else
        let chunks := (chunks texts).map byFirst
        let filled := chunks.filter fun groups => !groups.isEmpty
        let tails := chunks.flatten.map Prod.snd
        .inTurn (.fork (filled.length + (chunks.length - 1)) ::
          chunks.map (fun groups => branches groups.length) ++ tails.map (remainders depth))

def textsGrowth (texts : List (List Nat)) : Growth :=
  (Growth.plain 1).append (remainders ((texts.map List.length).foldl max 0 + 1) texts)

end ContentBlocking.Pattern
