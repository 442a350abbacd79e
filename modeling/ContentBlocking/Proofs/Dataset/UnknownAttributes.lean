import ContentBlocking.Proofs.Dataset.Segments
import ContentBlocking.Proofs.Override.Precedence
import ContentBlocking.Proofs.Plan.EmittedRules
import ContentBlocking.Proofs.Tracker.Rules

/-!
# Requests about which not everything is known

Every list of load types lets an unknown load type pass, and every list of load contexts an unknown
load context. In the rule list for a dataset all lists of load types have the third party, and all
lists of load contexts have the top frame, so what is unknown counts as these. Requests of the first
party pass by the rules of the trackers, as if the list began behind them.
-/

namespace ContentBlocking

variable {request : Request}

/-! ## Unknown attributes -/

namespace Trigger

variable {trigger : Trigger}

/-- An unknown value passes as a value does that is in all lists. -/
theorem passes_unknown_iff {α : Type} {allowed : Option (List α)} {known : α}
    (admitted : ∀ list ∈ allowed, known ∈ list) :
    (∀ list ∈ allowed, ∀ value ∈ (none : Option α), value ∈ list) ↔
      ∀ list ∈ allowed, ∀ value ∈ some known, value ∈ list := by
  constructor
  · intro _ list given value isKnown
    rw [← Option.some.inj isKnown]
    exact admitted list given
  · intro _ list given value absent
    cases absent

/-- An unknown load type counts as any one that the trigger admits. -/
theorem covers_unknown_loadType_iff {known : LoadType}
    (admitted : ∀ list ∈ trigger.loadType, known ∈ list) :
    trigger.Covers { request with loadType := none } ↔
      trigger.Covers { request with loadType := some known } := by
  have passes := passes_unknown_iff admitted
  constructor
  · intro covers
    exact ⟨covers.url, passes.mp covers.loadType, covers.loadContext, covers.unlessDomain,
      covers.ifDomain, covers.resourceType⟩
  · intro covers
    exact ⟨covers.url, passes.mpr covers.loadType, covers.loadContext, covers.unlessDomain,
      covers.ifDomain, covers.resourceType⟩

theorem covers_unknown_loadContext_iff {known : LoadContext}
    (admitted : ∀ list ∈ trigger.loadContext, known ∈ list) :
    trigger.Covers { request with loadContext := none } ↔
      trigger.Covers { request with loadContext := some known } := by
  have passes := passes_unknown_iff admitted
  constructor
  · intro covers
    exact ⟨covers.url, covers.loadType, passes.mp covers.loadContext, covers.unlessDomain,
      covers.ifDomain, covers.resourceType⟩
  · intro covers
    exact ⟨covers.url, covers.loadType, passes.mpr covers.loadContext, covers.unlessDomain,
      covers.ifDomain, covers.resourceType⟩

end Trigger

/-! ## Replays that go alike -/

/-- Requests that the same rules cover have the same verdict. -/
theorem RuleList.verdict_congr {rules : List Rule} {other : Request}
    (alike : ∀ rule ∈ rules, rule.trigger.Covers request ↔ rule.trigger.Covers other) :
    verdict rules request = verdict rules other := by
  rw [verdict_eq_foldl, verdict_eq_foldl]
  apply List.foldl_ext
  intro outcome entry member
  have listed : entry.1 ∈ rules := List.fst_mem_of_mem_zipIdx member
  exact if_congr (alike entry.1 listed) rfl rfl

/-- The outcome for a list that has as many rules more in front. -/
def Verdict.shift (offset : Nat) (verdict : Verdict) : Verdict :=
  { verdict with ruleIndex := verdict.ruleIndex.map (· + offset) }

theorem Verdict.shift_next (request : Request) (verdict : Verdict) (rule : Rule)
    (index offset : Nat) :
    (verdict.next request (rule, index)).shift offset =
      (verdict.shift offset).next request (rule, index + offset) := by
  by_cases covers : rule.trigger.Covers request
  · cases action : rule.action <;> simp [next, covers, action, take, shift]
  · simp [next, covers]

namespace RuleList

/-- A replay with larger indices ends with the same outcome, but for a larger index. -/
theorem shift_foldl_next (rules : List Rule) (index offset : Nat) (outcome : Verdict) :
    ((rules.zipIdx index).foldl (Verdict.next request) outcome).shift offset =
      (rules.zipIdx (index + offset)).foldl (Verdict.next request) (outcome.shift offset) := by
  induction rules generalizing index outcome with
  | nil => rfl
  | cons rule rest inductionHypothesis =>
      rw [List.zipIdx_cons, List.zipIdx_cons, List.foldl_cons, List.foldl_cons,
        inductionHypothesis, Verdict.shift_next, Nat.add_right_comm]

/-- Rules that do not cover a request leave the outcome as it is. -/
theorem foldl_next_of_uncovered {rules : List Rule}
    (uncovered : ∀ rule ∈ rules, ¬ rule.trigger.Covers request) (index : Nat)
    (outcome : Verdict) :
    (rules.zipIdx index).foldl (Verdict.next request) outcome = outcome := by
  induction rules generalizing index with
  | nil => rfl
  | cons rule rest inductionHypothesis =>
      have unchanged : outcome.next request (rule, index) = outcome :=
        if_neg (uncovered rule List.mem_cons_self)
      rw [List.zipIdx_cons, List.foldl_cons, unchanged]
      apply inductionHypothesis
      intro other member
      exact uncovered other (List.mem_cons_of_mem rule member)

/-- Rules in front that do not cover the request count for the index only. -/
theorem verdict_append_of_uncovered {early : List Rule}
    (uncovered : ∀ rule ∈ early, ¬ rule.trigger.Covers request) (late : List Rule) :
    verdict (early ++ late) request = (verdict late request).shift early.length := by
  have start : Verdict.start = Verdict.start.shift early.length := rfl
  rw [verdict_eq_foldl, verdict_eq_foldl, List.zipIdx_append, List.foldl_append,
    foldl_next_of_uncovered uncovered, shift_foldl_next, ← start]

end RuleList

/-! ## What the rules for a dataset restrict -/

namespace Dataset

variable {dataset : Dataset} {overrides : Overrides} {rule : Rule}

theorem loadType_of_mem_compileTracker {tracker : Tracker} {loadTypes : List LoadType}
    (member : rule ∈ (dataset.compileTracker tracker loadTypes).rules) :
    rule.trigger.loadType = some loadTypes := by
  obtain ⟨filter, plan, emitted, _⟩ := exists_emit_of_mem_compileTracker member
  exact (RuleContext.governs_of_mem_emit emitted).loadType

theorem thirdParty_mem_loadTypes {placement : Placement}
    (member : placement ∈ dataset.placements) :
    .thirdParty ∈ placement.loadTypes := by
  rcases exists_placement_iff.mp ⟨placement, member, rfl⟩ with
    ⟨tracker, _, same⟩ | ⟨entry, _, tracker, _, same⟩
  · rw [same]
    exact List.mem_singleton_self _
  · rw [same]
    exact List.mem_cons_of_mem _ (List.mem_singleton_self _)

/-- Every rule of a list admits loads from other sites and from the top frame. -/
theorem admits_of_mem_buildRules (member : rule ∈ dataset.buildRules overrides) :
    (∀ list ∈ rule.trigger.loadType, .thirdParty ∈ list) ∧
      ∀ list ∈ rule.trigger.loadContext, .topFrame ∈ list := by
  rw [buildRules_eq, buildRules_eq_flatMap, List.mem_append] at member
  rcases member with compiled | override
  · obtain ⟨placement, isPlacement, placed⟩ := List.mem_flatMap.mp compiled
    obtain ⟨filter, plan, emitted, _⟩ := exists_emit_of_mem_compileTracker placed
    constructor
    · rw [loadType_of_mem_compileTracker placed]
      intro list given
      rw [← Option.some.inj given]
      exact thirdParty_mem_loadTypes isPlacement
    · exact RuleContext.topFrame_mem_of_mem_emit emitted
  · obtain ⟨filter, pages, rfl⟩ := Overrides.exists_eq_of_mem_toRules override
    constructor
    · intro list given
      rw [← Option.some.inj given]
      decide
    · intro list given
      cases given

/-- The rules of trackers on their own domains cover no load from the same site. -/
theorem not_covers_of_mem_trackerSegment (member : rule ∈ dataset.trackerSegment) :
    ¬ rule.trigger.Covers { request with loadType := some .firstParty } := by
  intro covers
  obtain ⟨entry, _, compiled⟩ := List.mem_flatMap.mp member
  have thirdPartyOnly := covers.loadType _ (loadType_of_mem_compileTracker compiled) _ rfl
  cases List.mem_singleton.mp thirdPartyOnly

/-- An unknown load type counts as the third party, and an unknown load context as the top frame.
For the first party a list without the rules of the trackers gives the same outcome, but for the
index, in which these rules are counted. -/
theorem verdict_buildRules_of_unknown (dataset : Dataset) (overrides : Overrides)
    (request : Request) :
    RuleList.verdict (dataset.buildRules overrides) { request with loadType := none } =
        RuleList.verdict (dataset.buildRules overrides)
          { request with loadType := some .thirdParty } ∧
      RuleList.verdict (dataset.buildRules overrides) { request with loadContext := none } =
        RuleList.verdict (dataset.buildRules overrides)
          { request with loadContext := some .topFrame } ∧
      RuleList.verdict (dataset.buildRules overrides)
          { request with loadType := some .firstParty } =
        (RuleList.verdict (dataset.aliasSegment ++ overrides.toRules)
            { request with loadType := some .firstParty }).shift
          (dataset.build overrides).report.trackerRules := by
  refine ⟨?_, ?_, ?_⟩
  · apply RuleList.verdict_congr
    intro rule member
    exact Trigger.covers_unknown_loadType_iff (admits_of_mem_buildRules member).1
  · apply RuleList.verdict_congr
    intro rule member
    exact Trigger.covers_unknown_loadContext_iff (admits_of_mem_buildRules member).2
  · have segments : dataset.buildRules overrides =
        dataset.trackerSegment ++ (dataset.aliasSegment ++ overrides.toRules) := by
      rw [← List.append_assoc, ← segmentRules_compiledTrackers, ← segmentRules_compiledAliases]
      rfl
    have counted :
        (dataset.build overrides).report.trackerRules = dataset.trackerSegment.length := by
      rw [← segmentRules_compiledTrackers]
      rfl
    rw [segments, counted]
    apply RuleList.verdict_append_of_uncovered
    intro rule member
    exact not_covers_of_mem_trackerSegment member

end Dataset

end ContentBlocking
