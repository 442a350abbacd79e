import ContentBlocking.Proofs.Override.Precedence
import ContentBlocking.Proofs.Tracker.Repetition

/-!
# Rules that an alias borrows

A tracker behind an alias is compiled on the alias with all its rules. Its default rules move to the
URLs of the alias, but the patterns of its own rules are for the same URLs as before. So an alias
brings rules about other URLs with it, for all load types and behind the rules of all trackers.
-/

namespace ContentBlocking

open Pattern

namespace Dataset

/-- The trackers behind the aliases, in the order of the aliases. -/
def aliasedTrackers (dataset : Dataset) : List Tracker :=
  dataset.aliases.filterMap fun entry => dataset.findTracker? entry.2

/-- The rules that are compiled for aliases beside the default rules. -/
def borrowedRules (dataset : Dataset) : List Rule :=
  dataset.aliasedTrackers.flatMap fun tracker =>
    RuleList.distinct (tracker.groupedRules cnameLoadTypes (dataset.ownerEntries tracker))

def withoutAliases (dataset : Dataset) : Dataset := { dataset with cnames := none }

/-- A tracker on another domain keeps the owner and the groups of its rules. -/
theorem rules_compileTracker_withDomain (dataset : Dataset) (tracker : Tracker) (name : String)
    (loadTypes : List LoadType) :
    (dataset.compileTracker (tracker.withDomain name) loadTypes).rules =
      (tracker.withDomain name).defaultRules loadTypes (dataset.ownerEntries tracker) ++
        RuleList.distinct (tracker.groupedRules loadTypes (dataset.ownerEntries tracker)) :=
  rfl

/-- On other URLs than those of the aliases nothing but borrowed rules can decide. -/
theorem lastDecision?_compiledAliases {dataset : Dataset} {request : Request}
    (unmatched : ∀ entry ∈ dataset.aliases,
      ¬ Filter.Matches (Filter.ofDomain entry.1) request.url) :
    RuleList.lastDecision? request (segmentRules dataset.compiledAliases) =
      RuleList.lastDecision? request dataset.borrowedRules := by
  have compiledAliases_eq : dataset.compiledAliases =
      dataset.aliases.filterMap fun entry => dataset.compileAlias entry.1 entry.2 := rfl
  rw [segmentRules, compiledAliases_eq, borrowedRules, aliasedTrackers]
  -- The dataset stays as it is while its aliases are taken one by one.
  generalize dataset.aliases = entries at unmatched ⊢
  induction entries with
  | nil => rfl
  | cons entry rest inductionHypothesis =>
      have restSame := inductionHypothesis fun other member =>
        unmatched other (List.mem_cons_of_mem entry member)
      cases found : dataset.findTracker? entry.2 with
      | none => simpa [compileAlias, found] using restSame
      | some tracker =>
          have compiled : dataset.compileAlias entry.1 entry.2 =
              some (dataset.compileTracker (tracker.withDomain entry.1) cnameLoadTypes) := by
            rw [compileAlias, found]
            rfl
          have aliasUnmatched : ∀ domain ∈ (tracker.withDomain entry.1).domain,
              ¬ Filter.Matches (Filter.ofDomain domain) request.url := by
            intro domain known
            rw [← Option.some.inj known]
            exact unmatched entry List.mem_cons_self
          have silent := Tracker.lastDecision?_defaultRules aliasUnmatched cnameLoadTypes
            (dataset.ownerEntries tracker)
          simp only [List.filterMap_cons, compiled, found, List.flatMap_cons,
            RuleList.lastDecision?_append, rules_compileTracker_withDomain, silent,
            Option.or_none]
          rw [restSame]

/-- Each borrowed rule that covers a request decides it. -/
theorem isDecisive_of_mem_borrowedRules {dataset : Dataset} {rule : Rule}
    (member : rule ∈ dataset.borrowedRules) :
    rule.IsDecisive := by
  obtain ⟨tracker, _, kept⟩ := List.mem_flatMap.mp member
  exact Tracker.isDecisive_of_mem_groupedRules (RuleList.mem_distinct.mp kept)

/-- Borrowed rules stand behind the rules of all trackers. -/
theorem decision_buildRules_of_unmatched {dataset : Dataset} {request : Request}
    (unmatched : ∀ entry ∈ dataset.aliases,
      ¬ Filter.Matches (Filter.ofDomain entry.1) request.url) :
    (RuleList.verdict (dataset.buildRules {}) request).decision =
      (RuleList.lastDecision? request dataset.borrowedRules).getD
        (RuleList.verdict (dataset.withoutAliases.buildRules {}) request).decision := by
  have segments : dataset.buildRules {} =
      dataset.withoutAliases.buildRules {} ++ segmentRules dataset.compiledAliases := by
    have sameTrackers : dataset.withoutAliases.compiledTrackers = dataset.compiledTrackers := rfl
    have noAliases : dataset.withoutAliases.compiledAliases = [] := rfl
    have noOverrides : Overrides.toRules {} = [] := rfl
    simp [buildRules, build, sameTrackers, noAliases, noOverrides, segmentRules]
  rw [segments, RuleList.decision_verdict_append, lastDecision?_compiledAliases unmatched]

/-- A borrowed rule is for the URLs of a pattern of a tracker behind an alias. -/
theorem uncovered_of_unmatched_patterns {dataset : Dataset} {request : Request}
    (unmatched : ∀ tracker ∈ dataset.aliasedTrackers, ∀ rule ∈ tracker.ruleList,
      ∀ pattern ∈ rule.pattern,
        ¬ Filter.Matches (Filter.ofRulePattern pattern) request.url)
    {rule : Rule} (member : rule ∈ dataset.borrowedRules) :
    ¬ rule.trigger.Covers request := by
  intro covers
  obtain ⟨tracker, aliased, kept⟩ := List.mem_flatMap.mp member
  obtain ⟨source, listed, pattern, hasPattern, governs⟩ :=
    Tracker.governs_of_mem_groupedRules (RuleList.mem_distinct.mp kept)
  exact unmatched tracker aliased source listed pattern hasPattern (governs.reaches covers).url

/-- On other URLs than those of the aliases a decision is the same without aliases if and only if
an override frees the request, or the last borrowed rule about it, if there is one, decides what the
rules of the trackers decide. So it is the same if no pattern of a tracker behind an alias matches
the URL. -/
theorem decision_withoutAliases_iff {dataset : Dataset} {request : Request}
    (unmatched : ∀ entry ∈ dataset.aliases,
      ¬ Filter.Matches (Filter.ofDomain entry.1) request.url)
    (overrides : Overrides) :
    ((RuleList.verdict (dataset.buildRules overrides) request).decision =
          (RuleList.verdict (dataset.withoutAliases.buildRules overrides) request).decision ↔
        overrides.Free request ∨
          ∀ last,
            RuleList.IsLast (fun rule => rule.trigger.Covers request) dataset.borrowedRules
                last →
              last.action.decision? =
                some (RuleList.verdict (dataset.withoutAliases.buildRules {}) request).decision) ∧
      ((∀ tracker ∈ dataset.aliasedTrackers, ∀ rule ∈ tracker.ruleList,
          ∀ pattern ∈ rule.pattern,
            ¬ Filter.Matches (Filter.ofRulePattern pattern) request.url) →
        (RuleList.verdict (dataset.buildRules overrides) request).decision =
          (RuleList.verdict (dataset.withoutAliases.buildRules overrides) request).decision) := by
  have exact_iff :
      (RuleList.verdict (dataset.buildRules overrides) request).decision =
          (RuleList.verdict (dataset.withoutAliases.buildRules overrides) request).decision ↔
        overrides.Free request ∨
          ∀ last,
            RuleList.IsLast (fun rule => rule.trigger.Covers request) dataset.borrowedRules
                last →
              last.action.decision? =
                some (RuleList.verdict (dataset.withoutAliases.buildRules {})
                  request).decision := by
    obtain ⟨whenFree, whenBound⟩ := dataset.decision_buildRules overrides request
    obtain ⟨freeWithout, boundWithout⟩ :=
      dataset.withoutAliases.decision_buildRules overrides request
    by_cases free : overrides.Free request
    · simp [whenFree free, freeWithout free, free]
    · rw [whenBound free, boundWithout free, decision_buildRules_of_unmatched unmatched,
        RuleList.getD_lastDecision?_eq_iff fun rule => isDecisive_of_mem_borrowedRules]
      simp [free]
  refine ⟨exact_iff, ?_⟩
  intro patternsUnmatched
  apply exact_iff.mpr
  apply Or.inr
  intro last isLast
  have member := isLast.mem
  obtain ⟨early, late, _, covers, _⟩ := isLast
  exact False.elim (uncovered_of_unmatched_patterns patternsUnmatched member covers)

/-- A tracker with a rule, and an alias on the site of a shop. -/
def shopAlias : Dataset where
  trackers :=
    ⟨[("ad.com",
      { domain := some "ad.com"
        treatment := some .block
        rules := some [{ pattern := some "http://ad\\.com/a" }] })],
      List.pairwise_singleton _ _⟩
  entities := ∅
  domains := ∅
  cnames := some ⟨[("m.shop.com", "ad.com")], List.pairwise_singleton _ _⟩

/-- No filter for an alias matches a URL behind another scheme. -/
theorem shopAlias_unmatched :
    ∀ entry ∈ shopAlias.aliases,
      ¬ Filter.Matches (Filter.ofDomain entry.1) "blob:http://ad.com/a" := by
  intro entry member matched
  have isAlias : entry = ("m.shop.com", "ad.com") := List.mem_singleton.mp member
  subst isAlias
  have unmatched : (Written.ofChars? { ignoreCase := true }
      (Filter.ofDomain "m.shop.com").toList).any
        (fun tree => tree.toPattern.occursIn "blob:http://ad.com/a".toList) = false := by
    decide +kernel
  rw [matched.any_written] at unmatched
  cases unmatched

theorem decision_withoutAliases_on_third_party :
    (RuleList.verdict (shopAlias.buildRules {})
        { url := "blob:http://ad.com/a", page := "http://shop.com/",
          loadType := some .thirdParty }).decision =
      (RuleList.verdict (shopAlias.withoutAliases.buildRules {})
        { url := "blob:http://ad.com/a", page := "http://shop.com/",
          loadType := some .thirdParty }).decision := by
  apply (decision_withoutAliases_iff shopAlias_unmatched {}).1.mpr
  apply Or.inr
  intro last isLast
  have alike : ∀ rule ∈ shopAlias.borrowedRules, rule.action.decision? = some .block := by
    decide +kernel
  rw [RuleList.decision_verdict, alike last isLast.mem]
  decide +kernel

/-- The rule of the tracker is for the third party only, but the borrowed one is not. -/
theorem decision_on_first_party_ne :
    (∀ entry ∈ shopAlias.aliases,
        ¬ Filter.Matches (Filter.ofDomain entry.1) "blob:http://ad.com/a") ∧
      (RuleList.verdict (shopAlias.buildRules {})
          { url := "blob:http://ad.com/a", page := "http://shop.com/",
            loadType := some .firstParty }).decision = .block ∧
      (RuleList.verdict (shopAlias.withoutAliases.buildRules {})
          { url := "blob:http://ad.com/a", page := "http://shop.com/",
            loadType := some .firstParty }).decision = .allow := by
  refine ⟨shopAlias_unmatched, ?_, ?_⟩
  · rw [RuleList.decision_verdict]
    decide +kernel
  · rw [RuleList.decision_verdict]
    decide +kernel

end Dataset

end ContentBlocking
