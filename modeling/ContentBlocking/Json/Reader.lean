import ContentBlocking.Json.Token

/-!
# Reading JSON texts

The reader takes the tokens one by one and keeps the lists and objects that are still open on a
stack, so that nesting costs no more than length. Where the text breaks the grammar or ends, the
open values are closed around the broken place.
-/

namespace ContentBlocking.Json

/-- A list or an object inside which a value is being read. Its parts so far have the latest
first. -/
inductive Frame where
  | array (items : List Value)
  | object (members : List Member) (key : WrittenText)

/-- What the reader expects inside the innermost open value. Parts so far have the latest first. -/
inductive Expected where
  | value
  /-- The first item of a list, or its end. -/
  | firstItem
  /-- A key. Only an object without members may end here. -/
  | key (members : List Member)
  | colon (members : List Member) (key : WrittenText)
  /-- A comma or the end of a list. -/
  | itemEnd (items : List Value)
  /-- A comma or the end of an object. -/
  | memberEnd (members : List Member)

/-- The state of the reader: what it expects, and the values around that place with the innermost
first. -/
structure Position where
  expected : Expected
  outer : List Frame

/-- What a text holds: its value, and whether something follows it. -/
structure ReadText where
  value : Value
  trailing : Bool
deriving Repr

/-- Closes the open values around a broken one. -/
def abandon (broken : Value) : List Frame → Value
  | [] => broken
  | .array items :: outer =>
      abandon (.array (broken :: items).reverse (.cut (broken.fault?.getD .malformed))) outer
  | .object members key :: outer =>
      abandon (.object ((key, broken) :: members).reverse (.cut (broken.fault?.getD .malformed)))
        outer

/-- A member of which not even the key is there. -/
def absentMember (fault : Fault) : Member := (⟨[], some fault⟩, .absent fault)

/-- The innermost open value of a position where the text breaks off. -/
def Expected.broken (fault : Fault) : Expected → Value
  | .value => .absent fault
  | .firstItem => .array [] (.cut fault)
  | .key [] => .object [] (.cut fault)
  | .key (last :: members) =>
      .object (absentMember fault :: last :: members).reverse (.cut fault)
  | .colon members name => .object ((name, .absent fault) :: members).reverse (.cut fault)
  | .itemEnd items => .array items.reverse (.cut fault)
  | .memberEnd members => .object members.reverse (.cut fault)

namespace Position

def start : Position := ⟨.value, []⟩

def breakOff (position : Position) (fault : Fault) : Value :=
  abandon (position.expected.broken fault) position.outer

/-- Goes on after a complete value inside the given open ones; the last one is the value of the
text. -/
def complete (value : Value) : List Frame → Position ⊕ Value
  | [] => .inr value
  | .array items :: outer => .inl ⟨.itemEnd (value :: items), outer⟩
  | .object members key :: outer => .inl ⟨.memberEnd ((key, value) :: members), outer⟩

def openValue (outer : List Frame) : Token → Position ⊕ Value
  | .openBracket => .inl ⟨.firstItem, outer⟩
  | .openBrace => .inl ⟨.key [], outer⟩
  | .scalar value =>
      match value.fault? with
      | none => complete value outer
      | some _ => .inr (abandon value outer)
  | _ => .inr (abandon (.absent .malformed) outer)

/-- Takes a token in the place of a key. Anything but a string is a mistake there, even if the text
ends inside it. -/
def openKey (members : List Member) (outer : List Frame) (token : Token) : Position ⊕ Value :=
  match token, members with
  | .closeBrace, [] => complete (.object [] .closed) outer
  | .scalar (.text key), members =>
      match key.fault with
      | none => .inl ⟨.colon members key, outer⟩
      | some fault =>
          .inr (abandon (.object ((key, .absent fault) :: members).reverse (.cut fault)) outer)
  | _, members => .inr (abandon ((Expected.key members).broken .malformed) outer)

/-- Takes the next token. The answer is the next position, or the value of the text if it is
complete or cannot be completed. -/
def step (position : Position) (token : Token) : Position ⊕ Value :=
  match position.expected, token with
  | .value, token => openValue position.outer token
  | .firstItem, .closeBracket => complete (.array [] .closed) position.outer
  | .firstItem, token => openValue (.array [] :: position.outer) token
  | .key members, token => openKey members position.outer token
  | .colon members key, .colon => .inl ⟨.value, .object members key :: position.outer⟩
  | .itemEnd items, .comma => .inl ⟨.value, .array items :: position.outer⟩
  | .itemEnd items, .closeBracket => complete (.array items.reverse .closed) position.outer
  | .memberEnd members, .comma => .inl ⟨.key members, position.outer⟩
  | .memberEnd members, .closeBrace => complete (.object members.reverse .closed) position.outer
  | _, _ => .inr (position.breakOff .malformed)

end Position

def readFrom (position : Position) (text : List Symbol) : ReadText :=
  match _next : nextToken? text with
  | none => ⟨position.breakOff .ended, false⟩
  | some (token, rest) =>
      match position.step token with
      | .inl position => readFrom position rest
      | .inr value => ⟨value, !(skipSpace rest).isEmpty⟩
termination_by text.length
decreasing_by exact length_of_nextToken? _next

def read (text : List Symbol) : ReadText := readFrom .start text

end ContentBlocking.Json
