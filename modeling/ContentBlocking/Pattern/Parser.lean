import ContentBlocking.Pattern.MachineSize
import ContentBlocking.Pattern.Progress
import ContentBlocking.Pattern.Token

/-!
# Reading written patterns

Tokens are assembled on a stack of open groups. A group holds its finished alternatives and the
items of the current one. A pattern is refused if its description is nested too deeply or if a
machine for it would be too large.
-/

namespace ContentBlocking.Pattern

open ContentBlocking.Text

/-- A finished piece of a written pattern. -/
structure Item where
  tree : Written
  /-- The depth to which the description of the piece is nested. -/
  depth : Nat := 0
  /-- Whether a repetition may follow. -/
  repeatable : Bool := true

/-- A group that is not closed yet. Lists have their latest member first. -/
structure OpenGroup where
  flags : Flags
  /-- Whether the place of the group in a text is of interest. -/
  noted : Bool
  alternatives : List Item
  items : List Item

def nestedDepth (items : List Item) : Nat := (items.map Item.depth).foldl max 0 + 1

namespace OpenGroup

def new (flags : Flags) (noted : Bool) : OpenGroup := ⟨flags, noted, [], []⟩

def add (group : OpenGroup) (item : Item) : OpenGroup :=
  { group with items := item :: group.items }

def alternative (group : OpenGroup) : Item :=
  match group.items with
  | [] => ⟨.empty, 0, false⟩
  | [only] => only
  | items => ⟨.seq (items.reverse.map Item.tree), nestedDepth items, true⟩

def bar (group : OpenGroup) : OpenGroup :=
  { group with alternatives := group.alternative :: group.alternatives, items := [] }

def contents (group : OpenGroup) : Item :=
  match group.alternatives with
  | [] => group.alternative
  | alternatives =>
      let all := group.alternative :: alternatives
      ⟨.choice (all.reverse.map Item.tree), nestedDepth all, true⟩

def close (group : OpenGroup) : Item :=
  let contents := group.contents
  ⟨if group.noted then .group contents.tree else contents.tree, contents.depth + 1, true⟩

end OpenGroup

/-- The state of reading: the groups around the current one with the innermost first, the current
group, and the names of groups so far. -/
structure State where
  outer : List OpenGroup
  current : OpenGroup
  names : List (List Char)

/-- The tree of an element. A byte outside the alphabet is no character. -/
def Element.tree? (flags : Flags) : Element → Option Written
  | .char c => some (.set flags.alphabet (flags.literal c))
  | .byte c =>
      if flags.alphabet.has c then some (.set flags.alphabet (flags.literal c)) else none
  | .place condition => some (.look condition)
  | .boundary kind => some (.look (.boundary kind flags.alphabet))
  | element => (element.members? flags).map (.set flags.alphabet)

namespace State

def add (state : State) (item : Item) : State :=
  { state with current := state.current.add item }

def push? (state : State) (token : Token) : Option State :=
  let flags := state.current.flags
  match token with
  | .element element => (element.tree? flags).map fun tree => state.add { tree := tree }
  | .dot => flags.dot?.map fun set => state.add { tree := .set flags.alphabet set }
  | .caret => some (state.add { tree := .look flags.caret })
  | .dollar => some (state.add { tree := .look flags.dollar })
  | .bracket part => some (state.add { tree := .set flags.alphabet part.set, depth := part.depth })
  | .repetition counts =>
      match state.current.items with
      | [] => none
      | last :: items =>
          if last.repeatable then
            let counts := { counts with few := counts.few != flags.few }
            let item := { tree := .repetition last.tree counts, depth := last.depth + 1 }
            some { state with current := { state.current with items := item :: items } }
          else none
  | .opening (.named name) =>
      if name ∈ state.names then none
      else some ⟨state.current :: state.outer, .new flags true, name :: state.names⟩
  | .opening .noted => some ⟨state.current :: state.outer, .new flags true, state.names⟩
  | .opening (.plain letters) =>
      some ⟨state.current :: state.outer, .new (flags.change letters) false, state.names⟩
  | .flags letters =>
      some { state with
        current := { state.current with
          flags := flags.change letters
          items := ⟨.empty, 0, false⟩ :: state.current.items } }
  | .closing =>
      match state.outer with
      | [] => none
      | enclosing :: outer => some ⟨outer, enclosing.add state.current.close, state.names⟩
  | .bar => some { state with current := state.current.bar }

/-- All that has been read, if no group is open. -/
def finish? (state : State) : Option Item :=
  if state.outer.isEmpty then some state.current.contents else none

end State

def readItem? (state : State) (text : List Char) : Option Item :=
  match _shown : skipSpace state.current.flags.spaced text with
  | [] => state.finish?
  | first :: rest =>
      match _read : readToken? state.current.flags (first :: rest) with
      | none => none
      | some (token, after) =>
          match state.push? token with
          | none => none
          | some next => readItem? next after
termination_by text.length
decreasing_by
  have := length_of_readToken? _read
  have skipped := length_skipSpace_le state.current.flags.spaced text
  rw [_shown] at skipped
  omega

/-- The depth to which the description of a pattern may be nested. -/
def maxDepth : Nat := 250

/-- The tree of a written pattern, if it is well formed and not nested too deeply. -/
def Written.ofChars? (flags : Flags) (text : List Char) : Option Written :=
  match readItem? ⟨[], .new flags false, []⟩ text with
  | none => none
  | some item => if item.depth ≤ maxDepth then some item.tree else none

/-- The pattern that a text describes, if it is well formed and not too large. -/
def ofChars? (flags : Flags) (text : List Char) : Option Pattern :=
  match Written.ofChars? flags text with
  | none => none
  | some tree => if tree.outline.fits then some tree.toPattern else none

end ContentBlocking.Pattern
