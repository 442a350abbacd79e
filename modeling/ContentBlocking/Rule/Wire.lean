import ContentBlocking.Json.Decoder
import ContentBlocking.Json.Document
import ContentBlocking.Rule

/-!
# Rule lists as JSON

Rules are written with their fields in a fixed order and without absent fields. The action of a rule
is an object with the field `type`, which may stand anywhere among the others.
-/

namespace ContentBlocking

open Json

/-! ## Writing -/

def Json.Document.member? {α : Type} (name : String) (write : α → Document) :
    Option α → List (String × Document)
  | none => []
  | some value => [(name, write value)]

def Json.Document.list {α : Type} (write : α → Document) (items : List α) : Document :=
  .array (items.map write)

def Json.Document.texts : List String → Document := Document.list .text

def Trigger.toDocument (trigger : Trigger) : Document :=
  .object <|
    [("url-filter", .text trigger.urlFilter)] ++
    Document.member? "unless-domain" Document.texts trigger.unlessDomain ++
    Document.member? "if-domain" Document.texts trigger.ifDomain ++
    Document.member? "resource-type" (Document.list fun type => .text type.name)
      trigger.resourceType ++
    Document.member? "load-type" (Document.list fun type => .text type.name) trigger.loadType ++
    Document.member? "load-context" (Document.list fun context => .text context.name)
      trigger.loadContext

def Action.toDocument : Action → Document
  | .block => .object [("type", .text "block")]
  | .ignorePreviousRules => .object [("type", .text "ignore-previous-rules")]
  | .cssDisplayNone selector =>
      .object [("type", .text "css-display-none"), ("selector", .text selector)]

def Rule.toDocument (rule : Rule) : Document :=
  .object [("trigger", rule.trigger.toDocument), ("action", rule.action.toDocument)]

def RuleList.toDocument (rules : List Rule) : Document := Document.list Rule.toDocument rules

/-! ## Reading triggers -/

def Trigger.fields : List (RecordField Trigger) :=
  [.needed "url-filter" text fun trigger filter => { trigger with urlFilter := filter },
   .maybe "unless-domain" (list text) fun trigger domains =>
     { trigger with unlessDomain := domains },
   .maybe "if-domain" (list text) fun trigger domains => { trigger with ifDomain := domains },
   .maybe "resource-type" (list (named ResourceType.byName)) fun trigger types =>
     { trigger with resourceType := types },
   .maybe "load-type" (list (named LoadType.byName)) fun trigger types =>
     { trigger with loadType := types },
   .maybe "load-context" (list (named LoadContext.byName)) fun trigger contexts =>
     { trigger with loadContext := contexts }]

def Trigger.decode : Decoder Trigger := record "Trigger" Trigger.fields { urlFilter := "" }

/-! ## Reading actions

The members of an action are collected before its type is known, so their values have to be
decodable, and they may not be nested without limit. -/

inductive ActionName where
  | block
  | ignorePreviousRules
  | cssDisplayNone
deriving DecidableEq, Repr

def ActionName.byName : List (String × ActionName) :=
  [("block", .block), ("ignore-previous-rules", .ignorePreviousRules),
   ("css-display-none", .cssDisplayNone)]

/-- Checks that a value can be collected: its strings are decodable, its numbers are in range, and
at most `limit` lists and objects are nested in each other. -/
def collect : Nat → Value → Decoded Unit
  | _, .word _ => .ok ()
  | _, .number number =>
      match number.found with
      | .ok _ => .ok ()
      | .error problem => .error problem
  | _, .text written => (orFault written.decode).map fun _ => ()
  | limit + 1, .array items ending => do
      items.forM (collect limit)
      ending.check
  | limit + 1, .object members ending => do
      members.forM fun (key, value) => do
        let _ ← orFault key.decode
        collect limit value
      ending.check
  | 0, .array _ _ | 0, .object _ _ => failWith .malformed
  | _, .brokenWord _ fault | _, .brokenNumber fault | _, .absent fault => failWith fault

/-- Collects the members of an action: its type, and the other members in their order. -/
def collectMembers (limit : Nat) :
    Option ActionName → List (String × Value) → List Member →
      Decoded (Option ActionName × List (String × Value))
  | type, others, [] => .ok (type, others.reverse)
  | type, others, (key, value) :: rest => do
      let name ← orFault key.decode
      if name = "type" then
        if type.isSome then .error (.duplicateField "type")
        else
          let found ← variantName ActionName.byName value
          collectMembers limit (some found) others rest
      else
        collect limit value
        collectMembers limit type ((name, value) :: others) rest

/-- Finds the selector among the other members of an action. -/
def readSelector : Option String → List (String × Value) → Decoded String
  | none, [] => .error (.missingField "selector")
  | some selector, [] => .ok selector
  | selector, (name, value) :: rest =>
      if name = "selector" then
        if selector.isSome then .error (.duplicateField "selector")
        else do
          let found ← text value
          readSelector (some found) rest
      else readSelector selector rest

/-- The problem that a list has too many items after those that an action takes. -/
def tooManyItems {α : Type} (count taken : Nat) : Decoded α :=
  .error (.invalidLength count
    (toString taken ++ (if taken = 1 then " element" else " elements") ++ " in sequence"))

def Action.ofItems (items : List Value) : ActionName → Decoded Action
  | .block => if items.isEmpty then .ok .block else tooManyItems items.length 0
  | .ignorePreviousRules =>
      if items.isEmpty then .ok .ignorePreviousRules else tooManyItems items.length 0
  | .cssDisplayNone =>
      match items with
      | [] =>
          .error (.invalidLength 0 "struct variant Action::CssDisplayNone with 1 element")
      | first :: more => do
          let selector ← text first
          if more.isEmpty then return .cssDisplayNone selector
          else tooManyItems items.length 1

def Action.ofMembers (members : List (String × Value)) : ActionName → Decoded Action
  | .block => .ok .block
  | .ignorePreviousRules => .ok .ignorePreviousRules
  | .cssDisplayNone => (readSelector none members).map .cssDisplayNone

/-- Decodes an action, inside which at most `limit` lists and objects are nested in each other. -/
def Action.decode (limit : Nat) : Decoder Action
  | .object members ending => do
      let (type, others) ← collectMembers limit none [] members
      ending.check
      match type with
      | none => .error (.missingField "type")
      | some type => Action.ofMembers others type
  | .array [] ending => do
      ending.check
      .error (.missingField "type")
  | .array (first :: rest) ending => do
      let type ← variantName ActionName.byName first
      rest.forM (collect limit)
      ending.check
      Action.ofItems rest type
  | value => mismatch "internally tagged enum Action" value

/-! ## Reading rules -/

/-- The number of lists and objects that may be nested in each other around and inside a collected
value. -/
def nestingLimit : Nat := 127

def Rule.fields (outer : Nat) : List (RecordField Rule) :=
  [.needed "trigger" Trigger.decode fun rule trigger => { rule with trigger := trigger },
   .needed "action" (Action.decode (nestingLimit - 2 - outer)) fun rule action =>
     { rule with action := action }]

def Rule.decode (outer : Nat) : Decoder Rule :=
  record "ContentBlockerRule" (Rule.fields outer) ⟨{ urlFilter := "" }, .block⟩

def RuleList.decode : Decoder (List Rule) := list (Rule.decode 1)

end ContentBlocking
