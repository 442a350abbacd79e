import Std.Data.HashMap
import ContentBlocking.RuleList.Match

/-!
# Replaying a rule list

A request is decided by going through the rules in order. An applicable block rule blocks it, an
applicable rule that ignores previous rules allows it again and forgets the selectors hidden so far,
and an applicable rule with a selector hides one more. The filters of a list are read once, however
often they occur and however many requests are decided.
-/

namespace ContentBlocking

inductive Decision where
  | allow
  | block
deriving DecidableEq, Repr

structure Verdict where
  decision : Decision
  /-- The index of the last rule that made the decision. -/
  ruleIndex : Option Nat
  /-- The selectors that stay hidden, in the order of their rules. -/
  hidden : List String
deriving DecidableEq, Repr

def Verdict.start : Verdict := ⟨.allow, none, []⟩

/-- The outcome after one more applicable rule. -/
def Verdict.take (verdict : Verdict) (index : Nat) : Action → Verdict
  | .block => { verdict with decision := .block, ruleIndex := some index }
  | .ignorePreviousRules => ⟨.allow, some index, []⟩
  | .cssDisplayNone selector => { verdict with hidden := verdict.hidden ++ [selector] }

/-- A rule together with the pattern of its filter. -/
structure PreparedRule where
  rule : Rule
  pattern : Option Pattern

/-- A restriction to some values of an attribute, which an unknown value passes. -/
def passesIfKnown {α : Type} [BEq α] (allowed : Option (List α)) (value : Option α) : Bool :=
  match allowed, value with
  | some allowed, some value => allowed.contains value
  | _, _ => true

def PreparedRule.applies (prepared : PreparedRule) (request : Request) (url : List Char)
    (pageDomains : Option (List String)) : Bool :=
  passesIfKnown prepared.rule.trigger.loadType request.loadType &&
    passesIfKnown prepared.rule.trigger.loadContext request.loadContext &&
    prepared.rule.trigger.accepts prepared.pattern url pageDomains request.resourceType

namespace RuleList

/-- The patterns of the filters that have been read. -/
abbrev FilterCache := Std.HashMap String (Option Pattern)

/-- Prepares the rules of a list after those in `done`, which has the latest first. -/
def prepareAfter (cache : FilterCache) (done : List PreparedRule) :
    List Rule → List PreparedRule
  | [] => done.reverse
  | rule :: rest =>
      match cache[rule.trigger.urlFilter]? with
      | some pattern => prepareAfter cache (⟨rule, pattern⟩ :: done) rest
      | none =>
          let pattern := Pattern.ofFilter? rule.trigger.urlFilter
          prepareAfter (cache.insert rule.trigger.urlFilter pattern) (⟨rule, pattern⟩ :: done) rest

/-- Reads the filters of a rule list, each once. -/
def prepare (rules : List Rule) : List PreparedRule := prepareAfter ∅ [] rules

def invalid (prepared : List PreparedRule) : List Nat :=
  prepared.zipIdx.filterMap fun (prepared, index) =>
    if prepared.pattern.isNone then some index else none

def replay (prepared : List PreparedRule) (request : Request) : Verdict :=
  let url := request.url.toList
  let pageDomains := Url.pageDomains? request.page
  prepared.zipIdx.foldl (fun verdict (prepared, index) =>
    if prepared.applies request url pageDomains then verdict.take index prepared.rule.action
    else verdict) .start

def invalidRules (rules : List Rule) : List Nat := invalid (prepare rules)

def verdict (rules : List Rule) (request : Request) : Verdict := replay (prepare rules) request

end RuleList

end ContentBlocking
