import ContentBlocking.Proofs.Plan.EmittedRules
import ContentBlocking.Proofs.Tracker.DefaultCopies

/-!
# Exemptions for popups

Whatever a tracker compiles to says something about frames or popups only if it exempts popups of
the top frame. A tracker that blocks by default has one such rule, next to its default block;
another one has one for each filter of its rules that say nothing but a pattern.
-/

namespace ContentBlocking

namespace Rule

/-- The rule is for some frames only, or popups are among its resource types. -/
def ConcernsPopups (rule : Rule) : Prop :=
  rule.trigger.loadContext ≠ none ∨ ∃ types ∈ rule.trigger.resourceType, .popup ∈ types

instance (rule : Rule) : Decidable rule.ConcernsPopups :=
  inferInstanceAs (Decidable (rule.trigger.loadContext ≠ none ∨
    ∃ types ∈ rule.trigger.resourceType, ResourceType.popup ∈ types))

/-- The rule cancels what was decided about popups of the top frame, on all pages. -/
structure ExemptsPopups (rule : Rule) : Prop where
  action : rule.action = .ignorePreviousRules
  resourceType : rule.trigger.resourceType = some [.popup]
  loadContext : rule.trigger.loadContext = some [.topFrame]
  unlessDomain : rule.trigger.unlessDomain = none
  ifDomain : rule.trigger.ifDomain = none

theorem not_concernsPopups_of_unrestricted {rule : Rule}
    (frameless : rule.trigger.loadContext = none) (untyped : rule.trigger.resourceType = none) :
    ¬ rule.ConcernsPopups := by
  simp [ConcernsPopups, frameless, untyped]

/-- No tag stands for popups, so no restriction to tags concerns them. -/
theorem not_concernsPopups_of_tagged {rule : Rule} (tags : Option (List String))
    (frameless : rule.trigger.loadContext = none)
    (tagged : rule.trigger.resourceType = tags.map ResourceType.ofTags) :
    ¬ rule.ConcernsPopups := by
  intro concerns
  rcases concerns with framed | ⟨types, given, listed⟩
  · exact framed frameless
  · rw [tagged] at given
    obtain ⟨known, _, rfl⟩ := Option.map_eq_some_iff.mp given
    obtain ⟨tag, _, stands⟩ := List.mem_filterMap.mp listed
    exact ResourceType.ofTag?_ne_popup tag stands

end Rule

/-- The rule says nothing but a pattern. -/
def TrackerRule.IsBare (rule : TrackerRule) : Prop :=
  rule.options = none ∧ rule.exceptions = none ∧ rule.action ≠ some .ignore

instance (rule : TrackerRule) : Decidable rule.IsBare :=
  inferInstanceAs (Decidable
    (rule.options = none ∧ rule.exceptions = none ∧ rule.action ≠ some .ignore))

/-! ## What plans emit about popups -/

namespace RuleContext

variable {context : RuleContext} {rule : Rule}

theorem exemptsPopups_allowTopFramePopups (context : RuleContext) :
    context.allowTopFramePopups.ExemptsPopups :=
  ⟨rfl, rfl, rfl, rfl, rfl⟩

theorem concernsPopups_allowTopFramePopups (context : RuleContext) :
    context.allowTopFramePopups.ConcernsPopups :=
  Or.inl (Option.some_ne_none _)

/-- Of all that is made for a context, only the exemption concerns popups. -/
theorem Makes.concernsPopups_iff (made : context.Makes rule) :
    rule.ConcernsPopups ↔ rule = context.allowTopFramePopups := by
  constructor
  · intro concerns
    cases made with
    | block | allow => exact absurd concerns (Rule.not_concernsPopups_of_unrestricted rfl rfl)
    | blockOn restriction | blockOnForeign restriction | allowOn restriction =>
        exact absurd concerns (Rule.not_concernsPopups_of_tagged restriction.types rfl rfl)
    | allowTopFramePopups => rfl
  · intro same
    rw [same]
    exact context.concernsPopups_allowTopFramePopups

/-- A rule of a group that is about popups is an exemption. -/
theorem exemptsPopups_of_mem_emit {plan : Plan} (member : rule ∈ context.emit plan)
    (concerns : rule.ConcernsPopups) :
    rule.ExemptsPopups := by
  rw [(makes_of_mem_emit member).concernsPopups_iff.mp concerns]
  exact context.exemptsPopups_allowTopFramePopups

/-- Only the plain plan of a tracker that does not block is about popups, and it has one exemption
for them. -/
theorem filter_concernsPopups_emit (context : RuleContext) (plan : Plan) :
    (context.emit plan).filter (fun rule => rule.ConcernsPopups) =
      if plan = .ignoring .plain then [context.allowTopFramePopups] else [] := by
  by_cases isPlain : plan = .ignoring .plain
  · have unconcerned : ¬ context.block.ConcernsPopups :=
      Rule.not_concernsPopups_of_unrestricted rfl rfl
    rw [if_pos isPlain, isPlain]
    simp [emit, emitIgnoring, unconcerned, concernsPopups_allowTopFramePopups]
  · rw [if_neg isPlain, List.filter_eq_nil_iff]
    intro rule member concerns
    rw [decide_eq_true_eq, (makes_of_mem_emit member).concernsPopups_iff] at concerns
    rcases loadContext_of_mem_emit member with frameless | same
    · rw [concerns] at frameless
      cases frameless
    · exact isPlain same

end RuleContext

theorem Plan.classify_eq_plain_iff {source : TrackerRule} {blocks : Bool} :
    classify source blocks = .ignoring .plain ↔ blocks = false ∧ source.IsBare := by
  obtain ⟨pattern, surrogate, action, options, exceptions⟩ := source
  by_cases ignores : action = some .ignore
  · cases blocks <;> simp [classify, ofIgnoring, TrackerRule.IsBare, ignores]
  · cases blocks <;> cases options <;> cases exceptions <;>
      simp [classify, ofIgnoring, TrackerRule.IsBare, ignores]

/-- The group of a rule has an exemption if the rule is bare, and then it has two rules. -/
theorem RuleContext.filter_concernsPopups_group (context : RuleContext) (source : TrackerRule)
    (size : Nat) :
    (if (context.emit (Plan.classify source false)).length = size then
        context.emit (Plan.classify source false) else []).filter
          (fun rule => rule.ConcernsPopups) =
      if source.IsBare ∧ size = 2 then [context.allowTopFramePopups] else [] := by
  have emitted := filter_concernsPopups_emit context (Plan.classify source false)
  by_cases bare : source.IsBare
  · have plain : Plan.classify source false = .ignoring .plain :=
      Plan.classify_eq_plain_iff.mpr ⟨rfl, bare⟩
    have length : (context.emit (.ignoring .plain)).length = 2 := rfl
    rw [plain, if_pos rfl] at emitted
    rw [plain, length]
    by_cases pair : size = 2
    · rw [if_pos pair.symm, if_pos ⟨bare, pair⟩, emitted]
    · have notBoth : ¬ (source.IsBare ∧ size = 2) := fun both => pair both.2
      rw [if_neg (Ne.symm pair), if_neg notBoth, List.filter_nil]
  · have notPlain : Plan.classify source false ≠ .ignoring .plain :=
      fun plain => bare (Plan.classify_eq_plain_iff.mp plain).2
    have notBoth : ¬ (source.IsBare ∧ size = 2) := fun both => bare both.1
    rw [if_neg notPlain] at emitted
    rw [apply_ite (List.filter _), emitted, List.filter_nil, ite_self, if_neg notBoth]

/-! ## Exemptions among the rules of a tracker -/

namespace Tracker

variable {tracker : Tracker} {loadTypes : List LoadType} {ownerDomains : Option (List String)}

/-- The filters of the rules that say nothing but a pattern. -/
def bareFilters (tracker : Tracker) : List String :=
  tracker.ruleList.filterMap fun source =>
    if source.IsBare then source.pattern.map Filter.ofRulePattern else none

/-- A tracker that blocks by default has no exemption behind its default rules. -/
theorem not_concernsPopups_of_mem_groupedRules {rule : Rule} (blocks : tracker.isBlocking = true)
    (member : rule ∈ tracker.groupedRules loadTypes ownerDomains) :
    ¬ rule.ConcernsPopups := by
  intro concerns
  obtain ⟨_, _, _, _, emitted⟩ := mem_groupedRules_iff.mp member
  have isExemption := (RuleContext.makes_of_mem_emit emitted).concernsPopups_iff.mp concerns
  rw [isExemption] at member
  exact allowTopFramePopups_not_mem_groupedRules blocks _ member

/-- In a tracker that does not block by default, all exemptions stand in groups of two rules. -/
theorem filter_concernsPopups_emittedOfSize (ignores : tracker.isBlocking = false) (size : Nat) :
    (tracker.emittedOfSize loadTypes ownerDomains size).filter (fun rule => rule.ConcernsPopups) =
      if size = 2 then
        tracker.bareFilters.map fun filter =>
          (RuleContext.mk filter loadTypes ownerDomains).allowTopFramePopups
      else [] := by
  rw [emittedOfSize, bareFilters, ignores]
  induction tracker.ruleList with
  | nil => simp
  | cons source rest inductionHypothesis =>
      rw [List.flatMap_cons, List.filter_append, inductionHypothesis, List.filterMap_cons]
      cases hasPattern : source.pattern with
      | none => simp
      | some pattern =>
          have group := RuleContext.filter_concernsPopups_group
            (RuleContext.mk (Filter.ofRulePattern pattern) loadTypes ownerDomains) source size
          simp only [group]
          by_cases bare : source.IsBare
          · by_cases pair : size = 2 <;> simp [bare, pair]
          · simp [bare]

/-- A tracker that does not block by default has one exemption for each bare rule, in their order.
-/
theorem filter_concernsPopups_groupedRules (ignores : tracker.isBlocking = false) :
    (tracker.groupedRules loadTypes ownerDomains).filter (fun rule => rule.ConcernsPopups) =
      tracker.bareFilters.map fun filter =>
        (RuleContext.mk filter loadTypes ownerDomains).allowTopFramePopups := by
  simp [groupedRules_eq_append, filter_concernsPopups_emittedOfSize ignores]

/-- Equal exemptions have equal filters, so leaving out repetitions keeps one for each filter. -/
theorem filter_concernsPopups_distinct (ignores : tracker.isBlocking = false) :
    (RuleList.distinct (tracker.groupedRules loadTypes ownerDomains)).filter
        (fun rule => rule.ConcernsPopups) =
      (RuleList.distinct tracker.bareFilters).map fun filter =>
        (RuleContext.mk filter loadTypes ownerDomains).allowTopFramePopups := by
  rw [RuleList.filter_distinct, filter_concernsPopups_groupedRules ignores]
  apply RuleList.distinct_map
  intro left _ right _ same
  exact congrArg (fun rule => rule.trigger.urlFilter) same

end Tracker

namespace Dataset

/-- What a tracker compiles to concerns popups only where it exempts them. A tracker that blocks by
default does so once, in the second place and for its domain, or not at all without a domain.
Another tracker does so once for each filter of its rules that say nothing but a pattern. -/
theorem exemptions_compileTracker (dataset : Dataset) (tracker : Tracker)
    (loadTypes : List LoadType) :
    (∀ rule ∈ (dataset.compileTracker tracker loadTypes).rules,
        rule.ConcernsPopups → rule.ExemptsPopups) ∧
      (∀ domain, tracker.isBlocking = true → tracker.domain = some domain →
        ∃ first exemption others,
          (dataset.compileTracker tracker loadTypes).rules = first :: exemption :: others ∧
            exemption.ConcernsPopups ∧
            exemption.trigger.urlFilter = Filter.ofDomain domain ∧
            ∀ other ∈ first :: others, ¬ other.ConcernsPopups) ∧
      (tracker.isBlocking = true → tracker.domain = none →
        ∀ rule ∈ (dataset.compileTracker tracker loadTypes).rules, ¬ rule.ConcernsPopups) ∧
      (tracker.isBlocking = false →
        ((dataset.compileTracker tracker loadTypes).rules.filter
            (fun rule => rule.ConcernsPopups)).map (fun rule => rule.trigger.urlFilter) =
          RuleList.distinct tracker.bareFilters) := by
  have behind : tracker.isBlocking = true →
      ∀ rule ∈ RuleList.distinct
        (tracker.groupedRules loadTypes (dataset.ownerEntries tracker)), ¬ rule.ConcernsPopups :=
    fun blocks rule member =>
      Tracker.not_concernsPopups_of_mem_groupedRules blocks (RuleList.mem_distinct.mp member)
  refine ⟨?_, ?_, ?_, ?_⟩
  · intro rule member concerns
    obtain ⟨_, _, emitted, _⟩ := exists_emit_of_mem_compileTracker member
    exact RuleContext.exemptsPopups_of_mem_emit emitted concerns
  · intro domain blocks known
    rw [compileTracker, Tracker.defaultRules_of_isBlocking blocks known]
    refine ⟨_, _, _, rfl, RuleContext.concernsPopups_allowTopFramePopups _, rfl, ?_⟩
    intro other member
    rcases List.mem_cons.mp member with isFirst | isBehind
    · rw [isFirst]
      exact Rule.not_concernsPopups_of_unrestricted rfl rfl
    · exact behind blocks other isBehind
  · intro blocks unknown
    rw [compileTracker, Tracker.defaultRules_eq_nil (Or.inr unknown), List.nil_append]
    exact behind blocks
  · intro ignores
    rw [compileTracker, Tracker.defaultRules_eq_nil (Or.inl ignores), List.nil_append,
      Tracker.filter_concernsPopups_distinct ignores, List.map_map]
    exact List.map_id _

end Dataset

end ContentBlocking
