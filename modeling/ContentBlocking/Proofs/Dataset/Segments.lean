import ContentBlocking.Proofs.Dataset.Placements
import ContentBlocking.Proofs.RuleList.Repetition
import Mathlib.Algebra.GroupWithZero.Nat
import Mathlib.Data.Finset.Card

/-!
# Segments and their report

A rule list has three segments, and the report says how long each of them is, how many aliases gave
nothing, and how many rules were left out as repetitions. The report is counted along the way; here
each number is said on its own.
-/

namespace ContentBlocking

/-! ## Repetitions -/

/-- Without its repetitions a list is as long as the set of its members is large. -/
theorem RuleList.length_distinct {α : Type} [DecidableEq α] (items : List α) :
    (distinct items).length = items.toFinset.card := by
  rw [← List.toFinset_card_of_nodup (nodup_distinct items)]
  congr 1
  ext item
  rw [List.mem_toFinset, List.mem_toFinset, mem_distinct]

theorem RuleList.repetitions_of_perm {α : Type} [DecidableEq α] {items others : List α}
    (permuted : items.Perm others) :
    repetitions items = others.length - others.toFinset.card := by
  rw [repetitions, length_distinct, permuted.length_eq, List.toFinset_eq_of_perm _ _ permuted]

namespace Dataset

/-- The rules that the groups of a placed tracker emit, repetitions included. -/
def emittedRules (dataset : Dataset) (placement : Placement) : List Rule :=
  (placement.tracker.ruleGroups placement.loadTypes
    (dataset.ownerEntries placement.tracker)).flatten

/-- How many of the emitted rules of a placed tracker repeat others. -/
def repeatedCount (dataset : Dataset) (placement : Placement) : Nat :=
  (dataset.emittedRules placement).length - (dataset.emittedRules placement).toFinset.card

/-- A tracker reports as removed exactly those of its emitted rules that repeat others. -/
theorem removed_compileTracker (dataset : Dataset) (placement : Placement) :
    (dataset.compileTracker placement.tracker placement.loadTypes).removed =
      dataset.repeatedCount placement := by
  have permuted := (List.mergeSort_perm (placement.tracker.ruleGroups placement.loadTypes
    (dataset.ownerEntries placement.tracker)) fun left right => right.length ≤ left.length).flatten
  exact RuleList.repetitions_of_perm permuted

theorem removedRules_eq_sum (segment : List CompiledTracker) :
    removedRules segment = (segment.map CompiledTracker.removed).sum := by
  induction segment with
  | nil => rfl
  | cons compiled segment inductionHypothesis =>
      rw [removedRules, inductionHypothesis, List.map_cons, List.sum_cons]

/-- Trackers are compiled where they are placed: on their own domains first, and then on aliases. -/
theorem compiled_eq_map_placements (dataset : Dataset) :
    dataset.compiledTrackers ++ dataset.compiledAliases =
      dataset.placements.map fun placement =>
        dataset.compileTracker placement.tracker placement.loadTypes := by
  rw [placements, List.map_append, List.map_map, List.map_filterMap]
  congr 1
  rw [compiledAliases]
  congr 1
  funext entry
  simp only [compileAlias, Option.map_map]
  rfl

/-! ## Segments -/

/-- The rules of the trackers by key, for requests to other sites. -/
def trackerSegment (dataset : Dataset) : List Rule :=
  dataset.trackers.entries.flatMap fun entry =>
    (dataset.compileTracker entry.2 [.thirdParty]).rules

/-- The rules of the trackers behind aliases by alias, for all requests. -/
def aliasSegment (dataset : Dataset) : List Rule :=
  dataset.aliases.flatMap fun entry =>
    match dataset.findTracker? entry.2 with
    | some tracker =>
        (dataset.compileTracker (tracker.withDomain entry.1) [.firstParty, .thirdParty]).rules
    | none => []

theorem segmentRules_compiledTrackers (dataset : Dataset) :
    segmentRules dataset.compiledTrackers = dataset.trackerSegment := by
  rw [segmentRules, compiledTrackers, SortedMap.values, List.flatMap_map, List.flatMap_map]
  rfl

theorem segmentRules_compiledAliases (dataset : Dataset) :
    segmentRules dataset.compiledAliases = dataset.aliasSegment := by
  rw [segmentRules, compiledAliases, aliasSegment]
  induction dataset.aliases with
  | nil => rfl
  | cons entry rest inductionHypothesis =>
      rw [List.flatMap_cons, ← inductionHypothesis]
      cases found : dataset.findTracker? entry.2 with
      | none => simp [compileAlias, found]
      | some tracker => simp [compileAlias, found, cnameLoadTypes]

theorem aliases_increasing (dataset : Dataset) :
    dataset.aliases.Pairwise fun first second => first.1 < second.1 := by
  rw [aliases]
  cases dataset.cnames with
  | none => exact List.Pairwise.nil
  | some cnames => exact cnames.sorted

end Dataset

/-- That a rule list consists of the segments of a dataset, each in the order of its keys, and that
its report counts them. -/
structure Build.Accounts (dataset : Dataset) (overrides : Overrides) (build : Build) : Prop where
  keys : dataset.trackers.entries.Pairwise fun first second => first.1 < second.1
  aliases : dataset.aliases.Pairwise fun first second => first.1 < second.1
  rules : build.rules = dataset.trackerSegment ++ dataset.aliasSegment ++ overrides.toRules
  trackerRules : build.report.trackerRules = dataset.trackerSegment.length
  cnameRules : build.report.cnameRules = dataset.aliasSegment.length
  overrideRules : build.report.overrideRules = overrides.toRules.length
  total : build.report.total = build.rules.length
  unresolvedCnames : build.report.unresolvedCnames =
    dataset.aliases.countP fun entry => (dataset.findTracker? entry.2).isNone
  removed : build.report.removed = (dataset.placements.map dataset.repeatedCount).sum

/-- The report of a rule list accounts for every rule in it, every alias and every repetition. -/
theorem Dataset.accounts_build (dataset : Dataset) (overrides : Overrides) :
    Build.Accounts dataset overrides (dataset.build overrides) where
  keys := dataset.trackers.sorted
  aliases := dataset.aliases_increasing
  rules := by
    rw [← segmentRules_compiledTrackers, ← segmentRules_compiledAliases]
    rfl
  trackerRules := by
    rw [← segmentRules_compiledTrackers]
    rfl
  cnameRules := by
    rw [← segmentRules_compiledAliases]
    rfl
  overrideRules := rfl
  total := by
    simp only [build, BuildReport.total, List.length_append]
  unresolvedCnames := by
    rw [List.countP_eq_length_filter]
    rfl
  removed := by
    have compiled : (dataset.build overrides).report.removed =
        removedRules (dataset.compiledTrackers ++ dataset.compiledAliases) := rfl
    rw [compiled, compiled_eq_map_placements, removedRules_eq_sum, List.map_map]
    congr 1
    exact List.map_congr_left fun placement _ => dataset.removed_compileTracker placement

end ContentBlocking
