import ContentBlocking.Proofs.Tracker.GroupOrder
import ContentBlocking.Proofs.Tracker.Popups

/-!
# Copies of the default block

Repetitions are left out among what the rules of a tracker emit, but the default rules are not
compared with it. So the default block is repeated if one of the rules makes the filter for the
whole domain and blocks there without further conditions. No other rule of a compiled tracker has a
copy.
-/

namespace ContentBlocking

/-- In a tracker that blocks by default, the rule blocks all its URLs as the default block would: it
says nothing else, or no pages are those of the owner and its options hold everywhere. -/
def TrackerRule.BlocksEverywhere (rule : TrackerRule) (ownerDomains : Option (List String)) : Prop :=
  (rule.options = none ∧ rule.exceptions = none ∧ rule.action ≠ some .ignore) ∨
    (ownerDomains = none ∧ rule.options = some {} ∧
      (rule.exceptions ≠ none ∨ rule.action ≠ some .ignore))

namespace RuleContext

variable {context : RuleContext}

theorem block_eq_blockOn_iff {options : Restriction} :
    context.block = context.blockOn options ↔ context.ownerDomains = none ∧ options = {} := by
  obtain ⟨filter, loadTypes, ownerDomains⟩ := context
  obtain ⟨domains, types⟩ := options
  simp [block, blockOn, narrowed, trigger, Rule.block, eq_comm]

/-- In a tracker that blocks by default, a rule emits the plain block exactly if it blocks
everywhere. -/
theorem block_mem_emit_classify_iff {source : TrackerRule} :
    context.block ∈ context.emit (Plan.classify source true) ↔
      source.BlocksEverywhere context.ownerDomains := by
  have notAllowed : ∀ trigger, context.block ≠ .ignorePrevious trigger :=
    Rule.block_ne_ignorePrevious _
  obtain ⟨pattern, surrogate, action, options, exceptions⟩ := source
  by_cases ignores : action = some .ignore
  · cases options <;> cases exceptions <;>
      simp [TrackerRule.BlocksEverywhere, Plan.classify, Plan.ofBlocking, emit, emitBlocking,
        ignores, allow, allowOn, allowWhere, notAllowed, block_eq_blockOn_iff]
  · cases options <;> cases exceptions <;>
      simp [TrackerRule.BlocksEverywhere, Plan.classify, Plan.ofBlocking, emit, emitBlocking,
        ignores, allow, allowOn, notAllowed, block_eq_blockOn_iff]

/-- In front of rules without repetitions and without the exemption of popups, only the block of a
default pair can be repeated. -/
theorem nodup_pair_append_iff {others : List Rule} (once : others.Nodup)
    (unexempted : context.allowTopFramePopups ∉ others) :
    ((context.block :: context.allowTopFramePopups :: others).Nodup ↔ context.block ∉ others) ∧
      (context.allowTopFramePopups :: others).Nodup := by
  have behind : (context.allowTopFramePopups :: others).Nodup :=
    List.nodup_cons.mpr ⟨unexempted, once⟩
  have different : context.block ≠ context.allowTopFramePopups :=
    Rule.block_ne_ignorePrevious _ _
  refine ⟨?_, behind⟩
  rw [List.nodup_cons, List.mem_cons, not_or]
  exact ⟨fun apart => apart.1.2, fun absent => ⟨⟨different, absent⟩, behind⟩⟩

end RuleContext

namespace Tracker

variable {tracker : Tracker} {loadTypes : List LoadType} {ownerDomains : Option (List String)}
  {domain : String}

/-- The tracker blocks by default, and one of its rules makes the filter for its domain and blocks
everywhere. -/
def RestatesBlock (tracker : Tracker) (ownerDomains : Option (List String)) : Prop :=
  tracker.isBlocking = true ∧
    ∃ domain, tracker.domain = some domain ∧
      ∃ source ∈ tracker.ruleList, ∃ pattern, source.pattern = some pattern ∧
        Filter.ofRulePattern pattern = Filter.ofDomain domain ∧
          source.BlocksEverywhere ownerDomains

/-- The default block is emitted by a rule that restates it, and by no other. -/
theorem block_mem_groupedRules_iff (blocks : tracker.isBlocking = true)
    (known : tracker.domain = some domain) :
    (RuleContext.mk (Filter.ofDomain domain) loadTypes ownerDomains).block ∈
        tracker.groupedRules loadTypes ownerDomains ↔
      tracker.RestatesBlock ownerDomains := by
  rw [mem_groupedRules_iff, blocks]
  constructor
  · rintro ⟨source, listed, pattern, hasPattern, emitted⟩
    have sameFilter : Filter.ofDomain domain = Filter.ofRulePattern pattern :=
      (RuleContext.governs_of_mem_emit emitted).urlFilter
    rw [sameFilter] at emitted
    exact ⟨blocks, domain, known, source, listed, pattern, hasPattern, sameFilter.symm,
      RuleContext.block_mem_emit_classify_iff.mp emitted⟩
  · rintro ⟨_, other, otherKnown, source, listed, pattern, hasPattern, sameFilter, everywhere⟩
    have sameDomain : other = domain := Option.some.inj (otherKnown.symm.trans known)
    refine ⟨source, listed, pattern, hasPattern, ?_⟩
    rw [sameFilter, sameDomain]
    exact RuleContext.block_mem_emit_classify_iff.mpr everywhere

/-- A tracker that blocks by default has no rule whose plan exempts popups. -/
theorem allowTopFramePopups_not_mem_groupedRules (blocks : tracker.isBlocking = true)
    (context : RuleContext) :
    context.allowTopFramePopups ∉ tracker.groupedRules loadTypes ownerDomains := by
  intro member
  obtain ⟨source, _, pattern, _, emitted⟩ := mem_groupedRules_iff.mp member
  rcases RuleContext.loadContext_of_mem_emit emitted with frameless | plain
  · cases frameless
  · rw [blocks] at plain
    cases plain

end Tracker

namespace Dataset

/-- No rule of a compiled tracker has a copy but the first one, the default block, and this has one
if and only if a rule of the tracker restates it. -/
theorem nodup_compileTracker_iff (dataset : Dataset) (tracker : Tracker)
    (loadTypes : List LoadType) :
    ((dataset.compileTracker tracker loadTypes).rules.Nodup ↔
        ¬ tracker.RestatesBlock (dataset.ownerEntries tracker)) ∧
      (dataset.compileTracker tracker loadTypes).rules.tail.Nodup := by
  have once := RuleList.nodup_distinct
    (tracker.groupedRules loadTypes (dataset.ownerEntries tracker))
  by_cases without : tracker.isBlocking = false ∨ tracker.domain = none
  · have unrestated : ¬ tracker.RestatesBlock (dataset.ownerEntries tracker) := by
      rintro ⟨blocks, domain, known, _⟩
      rcases without with ignores | unknown
      · rw [ignores] at blocks
        cases blocks
      · rw [unknown] at known
        cases known
    rw [compileTracker, Tracker.defaultRules_eq_nil without, List.nil_append]
    exact ⟨iff_of_true once unrestated, once.tail⟩
  · obtain ⟨blocks, present⟩ := not_or.mp without
    rw [Bool.not_eq_false] at blocks
    obtain ⟨domain, known⟩ := Option.ne_none_iff_exists'.mp present
    have unexempted : (RuleContext.mk (Filter.ofDomain domain) loadTypes
        (dataset.ownerEntries tracker)).allowTopFramePopups ∉
          RuleList.distinct (tracker.groupedRules loadTypes (dataset.ownerEntries tracker)) :=
      mt RuleList.mem_distinct.mp (Tracker.allowTopFramePopups_not_mem_groupedRules blocks _)
    rw [compileTracker, Tracker.defaultRules_of_isBlocking blocks known, List.cons_append,
      List.singleton_append, List.tail_cons, ← Tracker.block_mem_groupedRules_iff blocks known,
      ← RuleList.mem_distinct]
    exact RuleContext.nodup_pair_append_iff once unexempted

/-- A tracker with a rule for all URLs on its domain and below it. -/
def restatingTracker : Tracker where
  domain := some "ad.com"
  treatment := some .block
  rules := some [{ pattern := some "ad\\.com(:?[0-9]+)?/.*" }]

def restatingDataset : Dataset where
  trackers := ⟨[("ad.com", restatingTracker)], List.pairwise_singleton _ _⟩
  entities := ∅
  domains := ∅
  cnames := none

/-- The rule gives the default block a copy behind the exemption of popups. -/
theorem not_nodup_restatingTracker :
    restatingTracker ∈ restatingDataset.trackers.values ∧
      ¬ (restatingDataset.compileTracker restatingTracker trackerLoadTypes).rules.Nodup := by
  refine ⟨List.mem_singleton.mpr rfl, ?_⟩
  decide +kernel

end Dataset

end ContentBlocking
