import ContentBlocking.Compile.Build
import ContentBlocking.RuleList.Replay

/-!
# Auditing datasets

An audit builds the rule list of a dataset and looks for malformed filters. If there are any, each
tracker is compiled on its own, together with the aliases behind which it stands, to find out where
they come from.
-/

namespace ContentBlocking

structure AuditReport where
  /-- The number of rules. -/
  rules : Nat
  /-- The indices of the rules with malformed filters. -/
  invalid : List Nat
  /-- Where the malformed filters come from. -/
  sources : List String
deriving DecidableEq, Repr

/-- Whether all filters are well formed. -/
def AuditReport.isValid (report : AuditReport) : Bool := report.invalid.isEmpty

def unprotectedSource : String := "<unprotected>"

def RuleList.hasInvalid (rules : List Rule) : Bool := !(RuleList.invalidRules rules).isEmpty

namespace Dataset

/-- The aliases behind which the tracker with a key stands. -/
def aliasesOf (dataset : Dataset) (key : String) : List String :=
  dataset.aliases.filterMap fun (name, target) =>
    if (dataset.findEntry? target).map Prod.fst = some key then some name else none

/-- The rules that come from the tracker with a key, on its own domain and behind aliases. -/
def rulesFrom (dataset : Dataset) (key : String) (tracker : Tracker) : List Rule :=
  (dataset.compileTracker tracker trackerLoadTypes).rules ++
    (dataset.aliasesOf key).flatMap fun name =>
      (dataset.compileTracker (tracker.withDomain name) cnameLoadTypes).rules

def mayGiveRules (tracker : Tracker) : Bool := tracker.isBlocking || !tracker.ruleList.isEmpty

def invalidSources (dataset : Dataset) (unprotected : Option (List String)) : List String :=
  (dataset.trackers.entries.filterMap fun (key, tracker) =>
    if mayGiveRules tracker && RuleList.hasInvalid (dataset.rulesFrom key tracker) then some key
    else none) ++
  match unprotected with
  | some domains =>
      if RuleList.hasInvalid (Overrides.toRules { unprotected := some domains }) then
        [unprotectedSource]
      else []
  | none => []

def audit (dataset : Dataset) (unprotected : Option (List String)) : AuditReport :=
  let rules := dataset.buildRules { unprotected }
  let invalid := RuleList.invalidRules rules
  { rules := rules.length
    invalid
    sources := if invalid.isEmpty then [] else dataset.invalidSources unprotected }

end Dataset

end ContentBlocking
