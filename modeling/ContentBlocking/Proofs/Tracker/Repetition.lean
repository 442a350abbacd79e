import Mathlib.Data.List.Perm.Lattice
import ContentBlocking.Compile.Build
import ContentBlocking.Proofs.RuleList.Repetition
import ContentBlocking.Proofs.Tracker.Rules

/-!
# Repetitions among the rules of a tracker

Rules with equal patterns may emit equal rules, and so may the two allowing rules of one plan if its
exceptions hold everywhere. Then the first one is kept, although a later one may have been meant to
cancel what stands between them. Nothing is repeated if the patterns differ and no such exceptions
are there.
-/

namespace ContentBlocking

/-! ## Groups without repetitions -/

/-- Different patterns make different filters. -/
theorem Filter.ofRulePattern_injective {left right : String}
    (equality : Filter.ofRulePattern left = Filter.ofRulePattern right) :
    left = right := by
  have notSpelled : ∀ pattern : String,
      "http".toList.isPrefixOf (subdomainStart ++ pattern).toList = false := by
    intro pattern
    rw [String.toList_append]
    rfl
  unfold ofRulePattern at equality
  by_cases leftSpelled : "http".toList.isPrefixOf left.toList = true
  · by_cases rightSpelled : "http".toList.isPrefixOf right.toList = true
    · rwa [if_pos leftSpelled, if_pos rightSpelled] at equality
    · rw [if_pos leftSpelled, if_neg rightSpelled] at equality
      rw [equality, notSpelled right] at leftSpelled
      cases leftSpelled
  · by_cases rightSpelled : "http".toList.isPrefixOf right.toList = true
    · rw [if_neg leftSpelled, if_pos rightSpelled] at equality
      rw [← equality, notSpelled left] at rightSpelled
      cases rightSpelled
    · rw [if_neg leftSpelled, if_neg rightSpelled] at equality
      have characters := congrArg String.toList equality
      rw [String.toList_append, String.toList_append] at characters
      exact String.toList_inj.mp (List.append_cancel_left characters)

@[simp]
theorem Rule.block_ne_ignorePrevious (trigger other : Trigger) :
    Rule.block trigger ≠ Rule.ignorePrevious other := by
  intro same
  cases congrArg Rule.action same

namespace RuleContext

variable {context : RuleContext}

theorem allow_ne_allowOn {restriction : Restriction} (restricted : restriction ≠ {}) :
    context.allow ≠ context.allowOn restriction := by
  intro same
  have triggers : context.trigger = context.narrowed restriction := congrArg Rule.trigger same
  have pages : none = restriction.domains.map Filter.wildcards :=
    congrArg Trigger.ifDomain triggers
  have types : none = restriction.types.map ResourceType.ofTags :=
    congrArg Trigger.resourceType triggers
  apply restricted
  rcases restriction with ⟨domains, tags⟩
  have noDomains : domains = none := Option.map_eq_none_iff.mp pages.symm
  have noTags : tags = none := Option.map_eq_none_iff.mp types.symm
  rw [noDomains, noTags]

/-- Exceptions that hold everywhere are the only reason for a repetition in a group. -/
theorem nodup_emit {plan : Plan}
    (restricted : ∀ options exceptions,
      plan = .blocking (.narrowedWithExceptions options exceptions) → exceptions ≠ {}) :
    (context.emit plan).Nodup := by
  cases plan with
  | blocking plan =>
      cases plan with
      | narrowedWithExceptions options exceptions =>
          have different : context.allow ≠ context.allowOn exceptions :=
            allow_ne_allowOn (restricted options exceptions rfl)
          have first : context.allow ≠ context.blockOn options :=
            (Rule.block_ne_ignorePrevious _ _).symm
          have second : context.blockOn options ≠ context.allowOn exceptions :=
            Rule.block_ne_ignorePrevious _ _
          simp [emit, emitBlocking, first, second, different]
      | ignored options => exact List.nodup_singleton _
      | narrowed options =>
          have different : context.allow ≠ context.blockOn options :=
            (Rule.block_ne_ignorePrevious _ _).symm
          simp [emit, emitBlocking, different]
      | excepted exceptions => exact List.nodup_singleton _
      | plain => exact List.nodup_singleton _
  | ignoring plan =>
      cases plan with
      | ignored options =>
          cases options with
          | none => simp [emit, emitIgnoring, block, allowWhere, allow]
          | some restriction => simp [emit, emitIgnoring, block, allowWhere, allowOn]
      | plain => simp [emit, emitIgnoring, block, allowTopFramePopups]
      | narrowedWithExceptions options exceptions =>
          simp [emit, emitIgnoring, blockOnForeign, allowOn]
      | narrowed options => exact List.nodup_singleton _
      | excepted exceptions => simp [emit, emitIgnoring, block, allowOn]

end RuleContext

theorem Plan.classify_eq_narrowedWithExceptions {rule : TrackerRule} {blocks : Bool}
    {options exceptions : Restriction}
    (chosen : classify rule blocks = .blocking (.narrowedWithExceptions options exceptions)) :
    blocks = true ∧ rule.options = some options ∧ rule.exceptions = some exceptions := by
  cases blocks with
  | false => cases chosen
  | true =>
      have planned : ofBlocking rule.options rule.exceptions (rule.action = some .ignore) =
          .narrowedWithExceptions options exceptions :=
        Plan.blocking.inj chosen
      unfold ofBlocking at planned
      split at planned
      · rename_i hasOptions hasExceptions
        cases planned
        exact ⟨rfl, hasOptions, hasExceptions⟩
      all_goals cases planned

/-! ## Trackers without repetitions -/

namespace Tracker

/-- The rules of the tracker have different patterns, and if it blocks by default, none of them
with options has exceptions that hold everywhere. -/
structure RepeatsNothing (tracker : Tracker) : Prop where
  patterns : (tracker.ruleList.filterMap TrackerRule.pattern).Nodup
  exceptions : tracker.isBlocking = true →
    ∀ rule ∈ tracker.ruleList, rule.options ≠ none → rule.exceptions ≠ some {}

/-- A tracker that repeats nothing emits no rule twice. -/
theorem RepeatsNothing.nodup_groupedRules {tracker : Tracker}
    (repeatsNothing : tracker.RepeatsNothing) (loadTypes : List LoadType)
    (ownerDomains : Option (List String)) :
    (tracker.groupedRules loadTypes ownerDomains).Nodup := by
  have sorted := List.mergeSort_perm (tracker.ruleGroups loadTypes ownerDomains)
    (fun left right => right.length ≤ left.length)
  rw [groupedRules, (List.Perm.flatten sorted).nodup_iff, List.nodup_flatten]
  constructor
  · intro group member
    obtain ⟨rule, listed, emitted⟩ := List.mem_filterMap.mp member
    obtain ⟨pattern, _, rfl⟩ := exists_pattern_of_emitted emitted
    apply RuleContext.nodup_emit
    intro options exceptions chosen
    obtain ⟨blocks, hasOptions, hasExceptions⟩ :=
      Plan.classify_eq_narrowedWithExceptions chosen
    have restricted := repeatsNothing.exceptions blocks rule listed (by simp [hasOptions])
    intro everywhere
    rw [hasExceptions, everywhere] at restricted
    exact restricted rfl
  · rw [ruleGroups, List.pairwise_filterMap]
    have patterns := List.pairwise_filterMap.mp
      (List.nodup_iff_pairwise_ne.mp repeatsNothing.patterns)
    apply patterns.imp
    intro rule other different group emitted otherGroup otherEmitted
    obtain ⟨pattern, hasPattern, rfl⟩ := exists_pattern_of_emitted emitted
    obtain ⟨otherPattern, otherHasPattern, rfl⟩ := exists_pattern_of_emitted otherEmitted
    intro shared inGroup inOtherGroup
    apply different pattern hasPattern otherPattern otherHasPattern
    apply Filter.ofRulePattern_injective
    have filter := (RuleContext.governs_of_mem_emit inGroup).urlFilter
    have otherFilter := (RuleContext.governs_of_mem_emit inOtherGroup).urlFilter
    exact filter.symm.trans otherFilter

end Tracker

/-! ## What leaving out repetitions does to a tracker -/

namespace Dataset

/-- The rules of a tracker in which nothing is left out as a repetition. -/
def unreducedRules (dataset : Dataset) (tracker : Tracker) (loadTypes : List LoadType) :
    List Rule :=
  tracker.defaultRules loadTypes (dataset.ownerEntries tracker) ++
    tracker.groupedRules loadTypes (dataset.ownerEntries tracker)

/-- Leaving out repetitions keeps a decision if and only if, among the rules of the groups that are
about the request, the last one and the last one to occur for the first time do the same. A tracker
without repetitions keeps all its rules. -/
theorem decision_compileTracker_iff (dataset : Dataset) (tracker : Tracker)
    (loadTypes : List LoadType) (request : Request) :
    ((RuleList.verdict (dataset.compileTracker tracker loadTypes).rules request).decision =
          (RuleList.verdict (dataset.unreducedRules tracker loadTypes) request).decision ↔
        ∀ last newest,
          RuleList.IsLast (fun rule => rule.trigger.Covers request)
              (tracker.groupedRules loadTypes (dataset.ownerEntries tracker)) last →
            RuleList.IsNewest (fun rule => rule.trigger.Covers request)
                (tracker.groupedRules loadTypes (dataset.ownerEntries tracker)) newest →
              last.action = newest.action) ∧
      (tracker.RepeatsNothing →
        (dataset.compileTracker tracker loadTypes).rules =
          dataset.unreducedRules tracker loadTypes) := by
  constructor
  · apply RuleList.decision_distinct_iff
    intro rule member
    exact Tracker.isDecisive_of_mem_groupedRules member
  · intro repeatsNothing
    have once := repeatsNothing.nodup_groupedRules loadTypes (dataset.ownerEntries tracker)
    rw [compileTracker, unreducedRules, RuleList.distinct_eq_self once]

/-- A tracker with a rule whose exceptions hold everywhere. -/
def exceptedTracker : Tracker where
  domain := some "ad.com"
  treatment := some .block
  rules := some
    [{ pattern := some "http://ad\\.com/a", options := some {}, exceptions := some {} }]

def exceptedDataset : Dataset where
  trackers := ⟨[("ad.com", exceptedTracker)], List.pairwise_singleton _ _⟩
  entities := ∅
  domains := ∅
  cnames := none

/-- Of the rules that allow the URLs, block them and allow them again, the third one is left out. -/
theorem decision_exceptedTracker_ne :
    exceptedTracker ∈ exceptedDataset.trackers.values ∧
      (RuleList.verdict
          (exceptedDataset.compileTracker exceptedTracker trackerLoadTypes).rules
          { url := "http://ad.com/a", page := "http://shop.com/" }).decision = .block ∧
      (RuleList.verdict
          (exceptedDataset.unreducedRules exceptedTracker trackerLoadTypes)
          { url := "http://ad.com/a", page := "http://shop.com/" }).decision = .allow := by
  refine ⟨List.mem_singleton.mpr rfl, ?_, ?_⟩
  · rw [RuleList.decision_verdict]
    decide +kernel
  · rw [RuleList.decision_verdict]
    decide +kernel

end Dataset

end ContentBlocking
