import ContentBlocking.Compile.Overrides
import ContentBlocking.Compile.Tracker

/-!
# Rule lists for datasets

The list for a dataset has three segments: the rules of the trackers by key, the rules of the
trackers behind aliases by alias, and the overrides. Later rules override earlier ones, so the order
is part of the meaning.
-/

namespace ContentBlocking

/-- How many rules a list has, by segment, and what was left out. -/
structure BuildReport where
  trackerRules : Nat
  cnameRules : Nat
  overrideRules : Nat
  /-- The aliases behind which there is no tracker. -/
  unresolvedCnames : Nat
  /-- The rules that were left out as repetitions. -/
  removed : Nat
deriving DecidableEq, Repr

def BuildReport.total (report : BuildReport) : Nat :=
  report.trackerRules + report.cnameRules + report.overrideRules

structure Build where
  rules : List Rule
  report : BuildReport
  events : List Event
deriving DecidableEq, Repr

/-- The load types for a tracker on its own domain. -/
def trackerLoadTypes : List LoadType := [.thirdParty]

/-- The load types for a tracker behind an alias, which belongs to the site of the page. -/
def cnameLoadTypes : List LoadType := [.firstParty, .thirdParty]

def segmentRules (segment : List CompiledTracker) : List Rule :=
  segment.flatMap CompiledTracker.rules

/-- The number of rules that compiled trackers leave out as repetitions. -/
def removedRules : List CompiledTracker → Nat
  | [] => 0
  | first :: rest => first.removed + removedRules rest

namespace Dataset

/-- The compiled trackers, in the order of their keys. -/
def compiledTrackers (dataset : Dataset) : List CompiledTracker :=
  dataset.trackers.values.map (fun tracker => dataset.compileTracker tracker trackerLoadTypes)

/-- What an alias gives: the tracker behind it, compiled on the alias, or nothing. -/
def compileAlias (dataset : Dataset) (name target : String) : Option CompiledTracker :=
  (dataset.findTracker? target).map fun tracker =>
    dataset.compileTracker (tracker.withDomain name) cnameLoadTypes

def compiledAliases (dataset : Dataset) : List CompiledTracker :=
  dataset.aliases.filterMap (fun (name, target) => dataset.compileAlias name target)

/-- The aliases behind which there is no tracker. -/
def unresolvedAliases (dataset : Dataset) : List (String × String) :=
  dataset.aliases.filter (fun (_, target) => (dataset.findTracker? target).isNone)

def aliasEvents (dataset : Dataset) : List Event :=
  dataset.aliases.flatMap fun (name, target) =>
    match dataset.compileAlias name target with
    | some compiled => compiled.events
    | none => [.aliasWithoutTracker name target]

def build (dataset : Dataset) (overrides : Overrides) : Build :=
  let trackers := dataset.compiledTrackers
  let aliases := dataset.compiledAliases
  let trackerRules := segmentRules trackers
  let cnameRules := segmentRules aliases
  let overrideRules := overrides.toRules
  let rules := trackerRules ++ cnameRules ++ overrideRules
  let removed := removedRules (trackers ++ aliases)
  { rules
    report :=
      { trackerRules := trackerRules.length
        cnameRules := cnameRules.length
        overrideRules := overrideRules.length
        unresolvedCnames := dataset.unresolvedAliases.length
        removed }
    events :=
      trackers.flatMap CompiledTracker.events ++ dataset.aliasEvents ++
        [.segmentsBuilt trackerRules.length cnameRules.length overrideRules.length removed,
         .listBuilt rules.length] }

def buildRules (dataset : Dataset) (overrides : Overrides) : List Rule :=
  (dataset.build overrides).rules

end Dataset

end ContentBlocking
