import ContentBlocking.Dataset
import ContentBlocking.Filter
import ContentBlocking.Rule

/-!
# Plans for tracker rules

A tracker rule becomes a short group of content-blocker rules. Which group depends on whether the
tracker blocks by default and on what the rule says: where it holds, where it does not hold, and
whether it asks to ignore. Each combination is one plan.
-/

namespace ContentBlocking

/-- What to do about a rule of a tracker that blocks by default. -/
inductive BlockingPlan where
  /-- Allow, block where the options apply, and allow again where the exceptions apply. -/
  | narrowedWithExceptions (options exceptions : Restriction)
  /-- Allow, everywhere or where the options apply. -/
  | ignored (options : Option Restriction)
  /-- Allow, and block where the options apply. -/
  | narrowed (options : Restriction)
  /-- Allow where the exceptions apply. -/
  | excepted (exceptions : Restriction)
  /-- Block. -/
  | plain
deriving DecidableEq, Repr

/-- What to do about a rule of a tracker that does not block by default. -/
inductive IgnoringPlan where
  /-- Block, and allow everywhere or where the options apply. -/
  | ignored (options : Option Restriction)
  /-- Block, but no popups of the top frame. -/
  | plain
  /-- Block where the options apply, and allow where the exceptions apply. -/
  | narrowedWithExceptions (options exceptions : Restriction)
  /-- Block where the options apply. -/
  | narrowed (options : Restriction)
  /-- Block, and allow where the exceptions apply. -/
  | excepted (exceptions : Restriction)
deriving DecidableEq, Repr

inductive Plan where
  | blocking (plan : BlockingPlan)
  | ignoring (plan : IgnoringPlan)
deriving DecidableEq, Repr

namespace Plan

def ofBlocking : Option Restriction → Option Restriction → Bool → BlockingPlan
  | some options, some exceptions, _ => .narrowedWithExceptions options exceptions
  | options, _, true => .ignored options
  | some options, none, false => .narrowed options
  | none, some exceptions, false => .excepted exceptions
  | none, none, false => .plain

def ofIgnoring : Option Restriction → Option Restriction → Bool → IgnoringPlan
  | options, _, true => .ignored options
  | none, none, false => .plain
  | some options, some exceptions, false => .narrowedWithExceptions options exceptions
  | some options, none, false => .narrowed options
  | none, some exceptions, false => .excepted exceptions

/-- The plan for a rule of a tracker that blocks by default or does not. -/
def classify (rule : TrackerRule) (blocks : Bool) : Plan :=
  let ignore := rule.action = some .ignore
  if blocks then .blocking (ofBlocking rule.options rule.exceptions ignore)
  else .ignoring (ofIgnoring rule.options rule.exceptions ignore)

end Plan

/-- What the content-blocker rules for one tracker rule have in common. -/
structure RuleContext where
  urlFilter : String
  loadTypes : List LoadType
  /-- The domains of the owner and all that lies below them. -/
  ownerDomains : Option (List String)
deriving DecidableEq, Repr

namespace RuleContext

/-- The context of a tracker rule. A rule without pattern has none. -/
def ofRule? (rule : TrackerRule) (loadTypes : List LoadType)
    (ownerDomains : Option (List String)) : Option RuleContext :=
  rule.pattern.map fun pattern => ⟨Filter.ofRulePattern pattern, loadTypes, ownerDomains⟩

/-- The trigger that all rules of the context refine. -/
def trigger (context : RuleContext) : Trigger :=
  { urlFilter := context.urlFilter, loadType := some context.loadTypes }

def narrowed (context : RuleContext) (restriction : Restriction) : Trigger :=
  { context.trigger with
    ifDomain := restriction.domains.map Filter.wildcards
    resourceType := restriction.types.map ResourceType.ofTags }

/-- Blocks everywhere but on the pages of the owner. -/
def block (context : RuleContext) : Rule :=
  .block { context.trigger with unlessDomain := context.ownerDomains }

def blockOn (context : RuleContext) (restriction : Restriction) : Rule :=
  .block (context.narrowed restriction)

/-- Blocks where a restriction applies, but not on the pages of the owner. -/
def blockOnForeign (context : RuleContext) (restriction : Restriction) : Rule :=
  .block { context.narrowed restriction with unlessDomain := context.ownerDomains }

def allow (context : RuleContext) : Rule := .ignorePrevious context.trigger

def allowOn (context : RuleContext) (restriction : Restriction) : Rule :=
  .ignorePrevious (context.narrowed restriction)

def allowWhere (context : RuleContext) : Option Restriction → Rule
  | none => context.allow
  | some restriction => context.allowOn restriction

def allowTopFramePopups (context : RuleContext) : Rule :=
  .ignorePrevious
    { context.trigger with resourceType := some [.popup], loadContext := some [.topFrame] }

def emitBlocking (context : RuleContext) : BlockingPlan → List Rule
  | .narrowedWithExceptions options exceptions =>
      [context.allow, context.blockOn options, context.allowOn exceptions]
  | .ignored options => [context.allowWhere options]
  | .narrowed options => [context.allow, context.blockOn options]
  | .excepted exceptions => [context.allowOn exceptions]
  | .plain => [context.block]

def emitIgnoring (context : RuleContext) : IgnoringPlan → List Rule
  | .ignored options => [context.block, context.allowWhere options]
  | .plain => [context.block, context.allowTopFramePopups]
  | .narrowedWithExceptions options exceptions =>
      [context.blockOnForeign options, context.allowOn exceptions]
  | .narrowed options => [context.blockOnForeign options]
  | .excepted exceptions => [context.block, context.allowOn exceptions]

def emit (context : RuleContext) : Plan → List Rule
  | .blocking plan => context.emitBlocking plan
  | .ignoring plan => context.emitIgnoring plan

end RuleContext

end ContentBlocking
