import ContentBlocking.Compile.Tracker
import ContentBlocking.Proofs.Plan.DecisionTable
import ContentBlocking.Proofs.RuleList.Repetition

/-!
# Where the rules of a tracker come from

The default rules of a tracker have the filter for its domain, and every other rule has the filter
for the pattern of a rule of the tracker. All of them are emitted by plans, so they have the given
load types, and they block or ignore previous rules.
-/

namespace ContentBlocking.Tracker

variable {tracker : Tracker} {loadTypes : List LoadType} {ownerDomains : Option (List String)}

/-! ## Default rules -/

/-- The default rules are those of a plan, for the domain of the tracker. -/
theorem exists_emit_of_mem_defaultRules {rule : Rule}
    (member : rule ∈ tracker.defaultRules loadTypes ownerDomains) :
    ∃ domain ∈ tracker.domain,
      rule ∈ (RuleContext.mk (Filter.ofDomain domain) loadTypes ownerDomains).emit
        (.ignoring .plain) := by
  rw [defaultRules] at member
  split at member
  · cases known : tracker.domain with
    | none =>
        rw [known] at member
        cases member
    | some domain =>
        rw [known] at member
        exact ⟨domain, rfl, member⟩
  · cases member

/-- The default rules of a tracker have the filter for its domain. -/
theorem governs_of_mem_defaultRules {rule : Rule}
    (member : rule ∈ tracker.defaultRules loadTypes ownerDomains) :
    ∃ domain ∈ tracker.domain,
      (RuleContext.mk (Filter.ofDomain domain) loadTypes ownerDomains).Governs rule := by
  obtain ⟨domain, known, emitted⟩ := exists_emit_of_mem_defaultRules member
  exact ⟨domain, known, RuleContext.governs_of_mem_emit emitted⟩

/-- The default rules are about the request: the tracker blocks by default, the URL is on its domain
and the load type is one of theirs. -/
def DefaultsReach (tracker : Tracker) (loadTypes : List LoadType) (request : Request) : Prop :=
  tracker.isBlocking = true ∧
    (∃ domain ∈ tracker.domain, Filter.Matches (Filter.ofDomain domain) request.url) ∧
      ∀ known ∈ request.loadType, known ∈ loadTypes

instance (tracker : Tracker) (loadTypes : List LoadType) (request : Request) :
    Decidable (tracker.DefaultsReach loadTypes request) :=
  inferInstanceAs (Decidable (tracker.isBlocking = true ∧
    (∃ domain ∈ tracker.domain, Filter.Matches (Filter.ofDomain domain) request.url) ∧
      ∀ known ∈ request.loadType, known ∈ loadTypes))

/-- What the default rules reach is blocked, but for popups of the top frame, which are allowed, and
for the pages of the owner, which are left as they are. -/
theorem lastDecision?_defaultRules_eq (tracker : Tracker) (loadTypes : List LoadType)
    (ownerDomains : Option (List String)) (request : Request) :
    RuleList.lastDecision? request (tracker.defaultRules loadTypes ownerDomains) =
      if tracker.DefaultsReach loadTypes request then
        if request.IsTopFramePopup then some .allow
        else if request.IsFromOwner ownerDomains then none
        else some .block
      else none := by
  by_cases reached : tracker.DefaultsReach loadTypes request
  · obtain ⟨blocks, ⟨domain, known, matched⟩, included⟩ := reached
    have reaches : (RuleContext.mk (Filter.ofDomain domain) loadTypes ownerDomains).Reaches
        request :=
      ⟨matched, included⟩
    rw [if_pos ⟨blocks, ⟨domain, known, matched⟩, included⟩, defaultRules, if_pos blocks,
      Option.mem_def.mp known]
    simp only [RuleList.lastDecision?, reaches.decision?_allowTopFramePopups,
      reaches.decision?_block]
    split_ifs <;> rfl
  · rw [if_neg reached]
    apply RuleList.lastDecision?_of_uncovered
    intro rule member covers
    obtain ⟨domain, known, governs⟩ := governs_of_mem_defaultRules member
    have reaches := governs.reaches covers
    have blocks : tracker.isBlocking = true := by
      cases unblocked : tracker.isBlocking with
      | true => rfl
      | false => simp [defaultRules, unblocked] at member
    exact reached ⟨blocks, ⟨domain, known, reaches.url⟩, reaches.loadType⟩

/-- The default rules of a tracker decide about nothing but the URLs of its domain. -/
theorem lastDecision?_defaultRules {request : Request}
    (unmatched : ∀ domain ∈ tracker.domain,
      ¬ Filter.Matches (Filter.ofDomain domain) request.url)
    (loadTypes : List LoadType) (ownerDomains : Option (List String)) :
    RuleList.lastDecision? request (tracker.defaultRules loadTypes ownerDomains) = none := by
  rw [lastDecision?_defaultRules_eq]
  apply if_neg
  intro ⟨_, ⟨domain, known, matched⟩, _⟩
  exact unmatched domain known matched

/-! ## Groups -/

/-- Only a rule with a pattern has a group, and its pattern makes the filter of the group. -/
theorem exists_pattern_of_emitted {rule : TrackerRule} {plan : Plan} {group : List Rule}
    (emitted : (RuleContext.ofRule? rule loadTypes ownerDomains).map
      (fun context => context.emit plan) = some group) :
    ∃ pattern, rule.pattern = some pattern ∧
      group = (RuleContext.mk (Filter.ofRulePattern pattern) loadTypes ownerDomains).emit
        plan := by
  cases hasPattern : rule.pattern with
  | none => simp [RuleContext.ofRule?, hasPattern] at emitted
  | some pattern =>
      simp only [RuleContext.ofRule?, hasPattern, Option.map_some, Option.some.injEq] at emitted
      exact ⟨pattern, rfl, emitted.symm⟩

/-- Every rule of the groups is emitted by the plan for a rule of the tracker. -/
theorem exists_emit_of_mem_groupedRules {rule : Rule}
    (member : rule ∈ tracker.groupedRules loadTypes ownerDomains) :
    ∃ source ∈ tracker.ruleList, ∃ pattern, source.pattern = some pattern ∧
      rule ∈ (RuleContext.mk (Filter.ofRulePattern pattern) loadTypes ownerDomains).emit
        (Plan.classify source tracker.isBlocking) := by
  obtain ⟨group, inGroups, inGroup⟩ := List.mem_flatten.mp member
  obtain ⟨source, listed, emitted⟩ := List.mem_filterMap.mp (List.mem_mergeSort.mp inGroups)
  obtain ⟨pattern, hasPattern, rfl⟩ := exists_pattern_of_emitted emitted
  exact ⟨source, listed, pattern, hasPattern, inGroup⟩

/-- Every rule of a group has the filter for the pattern of a rule of the tracker. -/
theorem governs_of_mem_groupedRules {rule : Rule}
    (member : rule ∈ tracker.groupedRules loadTypes ownerDomains) :
    ∃ source ∈ tracker.ruleList, ∃ pattern, source.pattern = some pattern ∧
      (RuleContext.mk (Filter.ofRulePattern pattern) loadTypes ownerDomains).Governs rule := by
  obtain ⟨source, listed, pattern, hasPattern, emitted⟩ := exists_emit_of_mem_groupedRules member
  exact ⟨source, listed, pattern, hasPattern, RuleContext.governs_of_mem_emit emitted⟩

theorem isDecisive_of_mem_groupedRules {rule : Rule}
    (member : rule ∈ tracker.groupedRules loadTypes ownerDomains) :
    rule.IsDecisive := by
  obtain ⟨_, _, _, _, governs⟩ := governs_of_mem_groupedRules member
  exact governs.decisive

/-! ## Groups whose rules are changed one by one -/

section Changes

variable {otherTypes : List LoadType} {otherDomains : Option (List String)}
  {change : Rule → Rule}

/-- If all plans emit changed rules, the groups keep their lengths and with them their order. -/
theorem groupedRules_map
    (changes : ∀ filter plan,
      (RuleContext.mk filter otherTypes otherDomains).emit plan =
        ((RuleContext.mk filter loadTypes ownerDomains).emit plan).map change) :
    tracker.groupedRules otherTypes otherDomains =
      (tracker.groupedRules loadTypes ownerDomains).map change := by
  have groups : tracker.ruleGroups otherTypes otherDomains =
      (tracker.ruleGroups loadTypes ownerDomains).map (List.map change) := by
    rw [ruleGroups, ruleGroups, List.map_filterMap]
    congr 1
    funext rule
    rw [RuleContext.ofRule?, RuleContext.ofRule?]
    cases rule.pattern with
    | none => rfl
    | some pattern => exact congrArg some (changes _ _)
  rw [groupedRules, groupedRules, groups, List.map_flatten]
  congr 1
  symm
  apply List.map_mergeSort
  intro left _ right _
  rw [List.length_map, List.length_map]

/-- If the change can be undone, different rules stay different. -/
theorem distinct_groupedRules_map (restore : Rule → Rule)
    (changes : ∀ filter plan,
      (RuleContext.mk filter otherTypes otherDomains).emit plan =
        ((RuleContext.mk filter loadTypes ownerDomains).emit plan).map change)
    (restores : ∀ rule ∈ tracker.groupedRules loadTypes ownerDomains,
      restore (change rule) = rule) :
    RuleList.distinct (tracker.groupedRules otherTypes otherDomains) =
      (RuleList.distinct (tracker.groupedRules loadTypes ownerDomains)).map change := by
  rw [groupedRules_map changes]
  apply RuleList.distinct_map
  intro left leftMember right rightMember same
  rw [← restores left leftMember, ← restores right rightMember, same]

end Changes

end ContentBlocking.Tracker

namespace ContentBlocking.Dataset

/-! ## Compiled rules -/

/-- Every rule of a compiled tracker is emitted by a plan, for its domain by the one that exempts
popups and otherwise by the plan for a rule of the tracker. -/
theorem exists_emit_of_mem_compileTracker {dataset : Dataset}
    {tracker : Tracker} {loadTypes : List LoadType} {rule : Rule}
    (member : rule ∈ (dataset.compileTracker tracker loadTypes).rules) :
    ∃ filter plan,
      rule ∈ (RuleContext.mk filter loadTypes (dataset.ownerEntries tracker)).emit plan ∧
        (plan = .ignoring .plain ∨
          ∃ source ∈ tracker.ruleList, plan = Plan.classify source tracker.isBlocking) := by
  rcases List.mem_append.mp member with isDefault | kept
  · obtain ⟨domain, _, emitted⟩ := Tracker.exists_emit_of_mem_defaultRules isDefault
    exact ⟨_, _, emitted, Or.inl rfl⟩
  · obtain ⟨source, listed, pattern, _, emitted⟩ :=
      Tracker.exists_emit_of_mem_groupedRules (RuleList.mem_distinct.mp kept)
    exact ⟨_, _, emitted, Or.inr ⟨source, listed, rfl⟩⟩

end ContentBlocking.Dataset
