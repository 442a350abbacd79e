import ContentBlocking.Compile.Plan

/-!
# Rules for one tracker

A tracker that blocks by default is blocked on its domain, but neither on the pages of its owner nor
as a popup of the top frame. The groups of its rules follow, larger groups first, and a rule that
occurs again in them is left out.
-/

namespace ContentBlocking

namespace RuleList

/-- The members of a list that are not equal to an earlier one. -/
def distinct {α : Type} [DecidableEq α] : List α → List α
  | [] => []
  | first :: rest => first :: (distinct rest).filter (fun other => other ≠ first)

/-- The number of members of a list that are equal to an earlier one. -/
def repetitions {α : Type} [DecidableEq α] (items : List α) : Nat :=
  items.length - (distinct items).length

end RuleList

structure CompiledTracker where
  rules : List Rule
  /-- The number of rules that were left out as repetitions. -/
  removed : Nat
  events : List Event
deriving DecidableEq, Repr

namespace Tracker

def ruleList (tracker : Tracker) : List TrackerRule := tracker.rules.getD []

/-- The block of a tracker's own domain and the exemption of popups. -/
def defaultRules (tracker : Tracker) (loadTypes : List LoadType)
    (ownerDomains : Option (List String)) : List Rule :=
  if tracker.isBlocking then
    match tracker.domain with
    | none => []
    | some domain =>
        let context : RuleContext := ⟨Filter.ofDomain domain, loadTypes, ownerDomains⟩
        [context.block, context.allowTopFramePopups]
  else []

/-- The group of content-blocker rules for each rule of a tracker that has a pattern. -/
def ruleGroups (tracker : Tracker) (loadTypes : List LoadType)
    (ownerDomains : Option (List String)) : List (List Rule) :=
  tracker.ruleList.filterMap fun rule =>
    (RuleContext.ofRule? rule loadTypes ownerDomains).map fun context =>
      context.emit (Plan.classify rule tracker.isBlocking)

/-- All rules of the groups, larger groups first and otherwise in order. -/
def groupedRules (tracker : Tracker) (loadTypes : List LoadType)
    (ownerDomains : Option (List String)) : List Rule :=
  ((tracker.ruleGroups loadTypes ownerDomains).mergeSort
    (fun left right => right.length ≤ left.length)).flatten

def patternEvents (tracker : Tracker) : List Event :=
  tracker.ruleList.filterMap fun rule =>
    if rule.pattern.isNone then some (.ruleWithoutPattern tracker.domain) else none

end Tracker

namespace Dataset

/-- The entries of a domain list for the pages of a tracker's owner. -/
def ownerEntries (dataset : Dataset) (tracker : Tracker) : Option (List String) :=
  (dataset.relatedDomains? tracker).map Filter.wildcards

def compileTracker (dataset : Dataset) (tracker : Tracker) (loadTypes : List LoadType) :
    CompiledTracker :=
  let ownerDomains := dataset.ownerEntries tracker
  let grouped := tracker.groupedRules loadTypes ownerDomains
  { rules := tracker.defaultRules loadTypes ownerDomains ++ RuleList.distinct grouped
    removed := RuleList.repetitions grouped
    events := tracker.patternEvents }

end Dataset

end ContentBlocking
