import ContentBlocking.Number.Binary64

/-!
# Writing JSON texts

A document is a value to be written. It is written on one line without spaces, or with a line for
each item and member and two spaces for each level.
-/

namespace ContentBlocking.Json

/-- A value to be written. -/
inductive Document where
  | text (text : String)
  | number (number : Binary64)
  | array (items : List Document)
  | object (members : List (String × Document))
deriving Repr

inductive Layout where
  | compact
  | pretty
deriving DecidableEq, Repr

/-- What stands in front of an item, a member or a closing bracket at a level. -/
def Layout.lineBreak (layout : Layout) (level : Nat) : List Char :=
  match layout with
  | .compact => []
  | .pretty => '\n' :: List.replicate (2 * level) ' '

def Layout.colon : Layout → List Char
  | .compact => [':']
  | .pretty => [':', ' ']

def hexDigit (value : Nat) : Char :=
  if value < 10 then Char.ofNat (48 + value) else Char.ofNat (87 + value)

/-- How a character stands in a string. -/
def escapeChar (c : Char) : List Char :=
  match c with
  | '"' => ['\\', '"']
  | '\\' => ['\\', '\\']
  | '\x08' => ['\\', 'b']
  | '\x0c' => ['\\', 'f']
  | '\n' => ['\\', 'n']
  | '\r' => ['\\', 'r']
  | '\t' => ['\\', 't']
  | c =>
      if c < ' ' then ['\\', 'u', '0', '0', hexDigit (c.toNat / 16), hexDigit (c.toNat % 16)]
      else [c]

def writeText (text : String) : List Char :=
  '"' :: text.toList.flatMap escapeChar ++ ['"']

mutual

def Document.write (layout : Layout) (level : Nat) : Document → List Char
  | .text content => writeText content
  | .number value => value.text.toList
  | .array [] => ['[', ']']
  | .array (first :: rest) =>
      '[' :: (layout.lineBreak (level + 1) ++ first.write layout (level + 1) ++
        writeItems layout (level + 1) rest ++ layout.lineBreak level ++ [']'])
  | .object [] => ['\x7b', '\x7d']
  | .object ((key, value) :: rest) =>
      '\x7b' :: (layout.lineBreak (level + 1) ++ writeText key ++ layout.colon ++
        value.write layout (level + 1) ++ writeMembers layout (level + 1) rest ++
        layout.lineBreak level ++ ['\x7d'])

/-- The text of further items at a level, with a comma in front of each. -/
def writeItems (layout : Layout) (level : Nat) : List Document → List Char
  | [] => []
  | item :: rest =>
      ',' :: (layout.lineBreak level ++ item.write layout level ++ writeItems layout level rest)

/-- The text of further members at a level, with a comma in front of each. -/
def writeMembers (layout : Layout) (level : Nat) : List (String × Document) → List Char
  | [] => []
  | (key, value) :: rest =>
      ',' :: (layout.lineBreak level ++ writeText key ++ layout.colon ++
        value.write layout level ++ writeMembers layout level rest)

end

def Document.render (layout : Layout) (document : Document) : String :=
  String.ofList (document.write layout 0)

end ContentBlocking.Json
