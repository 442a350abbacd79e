import ContentBlocking.Proofs.Dataset.Placements
import ContentBlocking.Proofs.Override.Precedence
import ContentBlocking.Proofs.Tracker.Repetition

/-!
# Popups of the top frame

The default block of a tracker comes with an exemption for popups of the top frame, but of the plans
for its rules only one does. So such a popup is blocked if and only if no override frees it and a
rule for a pattern has the last word. Plans that spare popups never do that, even when repetitions
are left out.
-/

namespace ContentBlocking

/-! ## Plans that spare popups -/

/-- None of the tags of tracker data stands for popups. -/
theorem ResourceType.ofTag?_ne_popup (tag : String) : ofTag? tag ≠ some .popup := by
  intro stands
  obtain ⟨before, after, split, _⟩ := List.lookup_eq_some_iff.mp stands
  have listed : (tag, popup) ∈
      [("script", script), ("xmlhttprequest", raw), ("subdocument", document), ("image", image),
        ("stylesheet", styleSheet)] := by
    rw [split]
    exact List.mem_append_right before List.mem_cons_self
  simp at listed

/-- The plan blocks nothing, or only where a tag of its options stands for the resource type, or it
has an exemption for popups. -/
def Plan.sparesPopups : Plan → Bool
  | .blocking (.narrowedWithExceptions options _) => options.types.isSome
  | .blocking (.ignored _) => true
  | .blocking (.narrowed options) => options.types.isSome
  | .blocking (.excepted _) => true
  | .blocking .plain => false
  | .ignoring (.ignored _) => false
  | .ignoring .plain => true
  | .ignoring (.narrowedWithExceptions options _) => options.types.isSome
  | .ignoring (.narrowed options) => options.types.isSome
  | .ignoring (.excepted _) => false

namespace RuleContext

variable {context : RuleContext} {request : Request} {rule : Rule} {plan : Plan}

/-- No tag stands for popups, so a trigger with the types for tags covers none. -/
theorem not_covers_of_tagged {trigger : Trigger} {tags : List String}
    (tagged : trigger.resourceType = some (ResourceType.ofTags tags))
    (popup : request.IsTopFramePopup) :
    ¬ trigger.Covers request := by
  intro covers
  obtain ⟨known, isKnown, listed⟩ := covers.resourceType _ tagged
  rw [popup.1] at isKnown
  cases isKnown
  obtain ⟨tag, _, stands⟩ := List.mem_filterMap.mp listed
  exact ResourceType.ofTag?_ne_popup tag stands

theorem decision?_ne_block_of_ignorePrevious (trigger : Trigger) :
    (Rule.ignorePrevious trigger).decision? request ≠ some .block := by
  unfold Rule.decision?
  split_ifs <;> simp [Rule.ignorePrevious, Action.decision?]

theorem decision?_ne_block_of_tagged {trigger : Trigger} {options : Restriction}
    (types : options.types.isSome = true)
    (narrowed : trigger.resourceType = options.types.map ResourceType.ofTags)
    (popup : request.IsTopFramePopup) :
    (Rule.block trigger).decision? request ≠ some .block := by
  obtain ⟨tags, hasTags⟩ := Option.isSome_iff_exists.mp types
  rw [hasTags] at narrowed
  rw [Rule.decision?_of_not_covers (not_covers_of_tagged narrowed popup)]
  simp

/-- A plan that spares popups has an exemption for them, or none of its rules blocks one. -/
theorem eq_plain_or_forall_of_sparesPopups (spares : plan.sparesPopups = true)
    (popup : request.IsTopFramePopup) :
    plan = .ignoring .plain ∨
      ∀ rule ∈ context.emit plan, rule.decision? request ≠ some .block := by
  have allows : ∀ trigger : Trigger,
      (Rule.ignorePrevious trigger).decision? request ≠ some .block :=
    decision?_ne_block_of_ignorePrevious
  have spared : ∀ options : Restriction, options.types.isSome = true →
      (context.blockOn options).decision? request ≠ some .block ∧
        (context.blockOnForeign options).decision? request ≠ some .block := by
    intro options types
    exact ⟨decision?_ne_block_of_tagged types rfl popup,
      decision?_ne_block_of_tagged types rfl popup⟩
  cases plan with
  | blocking plan =>
      apply Or.inr
      cases plan with
      | narrowedWithExceptions options exceptions =>
          simp [emit, emitBlocking, allow, allowOn, allows, spared options spares]
      | ignored options =>
          cases options <;> simp [emit, emitBlocking, allowWhere, allow, allowOn, allows]
      | narrowed options => simp [emit, emitBlocking, allow, allows, spared options spares]
      | excepted exceptions => simp [emit, emitBlocking, allowOn, allows]
      | plain => cases spares
  | ignoring plan =>
      cases plan with
      | ignored options => cases spares
      | plain => exact Or.inl rfl
      | narrowedWithExceptions options exceptions =>
          apply Or.inr
          simp [emit, emitIgnoring, allowOn, allows, spared options spares]
      | narrowed options =>
          apply Or.inr
          simp [emit, emitIgnoring, spared options spares]
      | excepted exceptions => cases spares

/-- Nothing but the exemption for popups is about a frame. -/
theorem loadContext_of_mem_emit (member : rule ∈ context.emit plan) :
    rule.trigger.loadContext = none ∨ plan = .ignoring .plain := by
  have allowWhere_loadContext : ∀ options : Option Restriction,
      (context.allowWhere options).trigger.loadContext = none := by
    intro options
    cases options <;> rfl
  have frameless : plan = .ignoring .plain ∨
      ∀ rule ∈ context.emit plan, rule.trigger.loadContext = none := by
    cases plan with
    | blocking plan =>
        apply Or.inr
        cases plan <;>
          simp [emit, emitBlocking, allow, block, blockOn, allowOn, narrowed, trigger,
            Rule.block, Rule.ignorePrevious, allowWhere_loadContext]
    | ignoring plan =>
        cases plan with
        | plain => exact Or.inl rfl
        | _ =>
            apply Or.inr
            simp [emit, emitIgnoring, block, blockOnForeign, allowOn, narrowed, trigger,
              Rule.block, Rule.ignorePrevious, allowWhere_loadContext]
  rcases frameless with isPlain | all
  · exact Or.inr isPlain
  · exact Or.inl (all rule member)

/-- The exemption for popups goes before the block in front of it. -/
theorem lastDecision?_emit_plain_ne_block (popup : request.IsTopFramePopup) :
    RuleList.lastDecision? request (context.emit (.ignoring .plain)) ≠ some .block := by
  by_cases reaches : context.Reaches request
  · simp [emit, emitIgnoring, RuleList.lastDecision?, reaches.decision?_allowTopFramePopups, popup]
  · rw [lastDecision?_emit_of_not_reaches _ reaches]
    simp

end RuleContext

/-! ## Groups that spare popups, without repetitions -/

section Groups

variable {request : Request} {loadTypes : List LoadType} {ownerDomains : Option (List String)}

/-- Wherever the exemption for popups occurs, the block that it belongs to stands in front of it. -/
theorem RuleContext.emit_eq_of_allowTopFramePopups_mem {filter other : String} {plan : Plan}
    (member : (mk filter loadTypes ownerDomains).allowTopFramePopups ∈
      (mk other loadTypes ownerDomains).emit plan) :
    (mk other loadTypes ownerDomains).emit plan =
      (mk filter loadTypes ownerDomains).emit (.ignoring .plain) := by
  have sameFilter : filter = other := (governs_of_mem_emit member).urlFilter
  rcases loadContext_of_mem_emit member with frameless | isPlain
  · cases frameless
  · rw [sameFilter, isPlain]

/-- Behind rules among which the exemption does not occur without its block, what is new of the two
does not block. -/
theorem RuleContext.lastDecision?_new_emit_plain_ne_block {context : RuleContext}
    (popup : request.IsTopFramePopup) {earlier : List Rule}
    (paired : context.allowTopFramePopups ∈ earlier → context.block ∈ earlier) :
    RuleList.lastDecision? request
        ((RuleList.distinct (context.emit (.ignoring .plain))).filter
          fun rule => rule ∉ earlier) ≠
      some .block := by
  by_cases repeated : context.block ∈ earlier
  · intro blocked
    obtain ⟨rule, member, blocks⟩ := RuleList.exists_of_lastDecision? blocked
    obtain ⟨inGroup, new⟩ := List.mem_filter.mp member
    rcases List.mem_cons.mp (RuleList.mem_distinct.mp inGroup) with rfl | exempt
    · exact of_decide_eq_true new repeated
    · rw [List.mem_singleton.mp exempt] at blocks
      exact decision?_ne_block_of_ignorePrevious _ blocks
  · have once : (context.emit (.ignoring .plain)).Nodup :=
      nodup_emit fun options exceptions chosen => by cases chosen
    have new : ∀ rule ∈ context.emit (.ignoring .plain), rule ∉ earlier := by
      simpa [emit, emitIgnoring] using ⟨repeated, mt paired repeated⟩
    rw [RuleList.distinct_eq_self once,
      List.filter_eq_self.mpr fun rule member => decide_eq_true (new rule member)]
    exact lastDecision?_emit_plain_ne_block popup

/-- Leaving out repetitions never separates a block from its exemption: an exemption that has
occurred before came behind the same block. -/
theorem RuleList.lastDecision?_distinct_ne_block (popup : request.IsTopFramePopup)
    {groups : List (List Rule)}
    (spared : ∀ group ∈ groups, ∃ filter plan,
      group = (RuleContext.mk filter loadTypes ownerDomains).emit plan ∧
        (plan = .ignoring .plain ∨ ∀ rule ∈ group, rule.decision? request ≠ some .block)) :
    lastDecision? request (distinct groups.flatten) ≠ some .block := by
  -- The last group either adds nothing that blocks, or a block together with its exemption.
  induction groups using List.reverseRecOn with
  | nil => simp [distinct, lastDecision?]
  | append_singleton groups group inductionHypothesis =>
      have before : lastDecision? request (distinct groups.flatten) ≠ some .block :=
        inductionHypothesis fun other member =>
          spared other (List.mem_append_left [group] member)
      obtain ⟨filter, plan, rfl, spares⟩ :=
        spared group (List.mem_append_right groups (List.mem_singleton_self group))
      have added : lastDecision? request
          ((distinct ((RuleContext.mk filter loadTypes ownerDomains).emit plan)).filter
            fun rule => rule ∉ groups.flatten) ≠
          some .block := by
        rcases spares with rfl | harmless
        · apply RuleContext.lastDecision?_new_emit_plain_ne_block popup
          intro occurred
          obtain ⟨other, member, exempts⟩ := List.mem_flatten.mp occurred
          obtain ⟨otherFilter, otherPlan, rfl, _⟩ :=
            spared other (List.mem_append_left _ member)
          rw [RuleContext.emit_eq_of_allowTopFramePopups_mem exempts] at member
          exact List.mem_flatten.mpr ⟨_, member, List.mem_cons_self⟩
        · intro blocked
          obtain ⟨rule, member, blocks⟩ := exists_of_lastDecision? blocked
          exact harmless rule (mem_distinct.mp (List.mem_filter.mp member).1) blocks
      rw [List.flatten_append, List.flatten_singleton, distinct_append, lastDecision?_append]
      intro blocked
      rcases Option.or_eq_some_iff.mp blocked with late | ⟨_, early⟩
      · exact added late
      · exact before early

/-- If the plans of all rules that match a popup spare popups, the groups do not block it. -/
theorem Tracker.lastDecision?_groupedRules_ne_block {tracker : Tracker}
    (popup : request.IsTopFramePopup)
    (spares : ∀ rule ∈ tracker.ruleList, ∀ pattern ∈ rule.pattern,
      Filter.Matches (Filter.ofRulePattern pattern) request.url →
        (Plan.classify rule tracker.isBlocking).sparesPopups = true)
    (loadTypes : List LoadType) (ownerDomains : Option (List String)) :
    RuleList.lastDecision? request
        (RuleList.distinct (tracker.groupedRules loadTypes ownerDomains)) ≠
      some .block := by
  apply RuleList.lastDecision?_distinct_ne_block popup
  intro group member
  obtain ⟨source, listed, emitted⟩ := List.mem_filterMap.mp (List.mem_mergeSort.mp member)
  obtain ⟨pattern, hasPattern, rfl⟩ := exists_pattern_of_emitted emitted
  refine ⟨_, _, rfl, ?_⟩
  by_cases matched : Filter.Matches (Filter.ofRulePattern pattern) request.url
  · exact RuleContext.eq_plain_or_forall_of_sparesPopups
      (spares source listed pattern hasPattern matched) popup
  · apply Or.inr
    intro rule inGroup blocks
    have reaches :=
      (RuleContext.governs_of_mem_emit inGroup).reaches (Rule.covers_of_decision? blocks)
    exact matched reaches.url

end Groups

/-! ## Popups and datasets -/

namespace Dataset

variable {dataset : Dataset} {request : Request}

theorem isDecisive_of_mem_buildRules {rule : Rule} (member : rule ∈ dataset.buildRules {}) :
    rule.IsDecisive := by
  rw [buildRules_eq_flatMap] at member
  obtain ⟨placement, _, placed⟩ := List.mem_flatMap.mp member
  rcases List.mem_append.mp placed with isDefault | grouped
  · obtain ⟨_, _, governs⟩ := Tracker.governs_of_mem_defaultRules isDefault
    exact governs.decisive
  · exact Tracker.isDecisive_of_mem_groupedRules (RuleList.mem_distinct.mp grouped)

/-- If the last word about a popup of the top frame is a block, a rule for a pattern has it. -/
theorem exists_isLast_groupedRules (popup : request.IsTopFramePopup) {last : Rule}
    (isLast : RuleList.IsLast (fun rule => rule.trigger.Covers request)
      (dataset.buildRules {}) last)
    (blocks : last.action = .block) :
    ∃ placement ∈ dataset.placements,
      RuleList.IsLast (fun rule => rule.trigger.Covers request)
        (RuleList.distinct (placement.tracker.groupedRules placement.loadTypes
          (dataset.ownerEntries placement.tracker)))
        last := by
  rw [buildRules_eq_flatMap] at isLast
  obtain ⟨placement, member, inPlacement⟩ := isLast.exists_of_flatMap
  refine ⟨placement, member, ?_⟩
  rcases inPlacement.of_append with grouped | isDefault
  · exact grouped
  · have decides := RuleList.lastDecision?_of_isLast (Or.inl blocks) isDefault
    rw [Tracker.lastDecision?_defaultRules_eq, if_pos popup, blocks] at decides
    split_ifs at decides <;> cases decides

/-- Without overrides, a request is blocked exactly if the last rule that covers it blocks. -/
theorem blocks_buildRules_iff_exists_isLast :
    (RuleList.verdict (dataset.buildRules {}) request).decision = .block ↔
      ∃ last,
        RuleList.IsLast (fun rule => rule.trigger.Covers request) (dataset.buildRules {}) last ∧
          last.action = .block := by
  rw [RuleList.decision_verdict]
  constructor
  · intro blocked
    by_cases present : ∃ rule ∈ dataset.buildRules {}, rule.trigger.Covers request
    · obtain ⟨last, isLast⟩ := RuleList.exists_isLast present
      have decisive := isDecisive_of_mem_buildRules isLast.mem
      rw [RuleList.lastDecision?_of_isLast decisive isLast] at blocked
      refine ⟨last, isLast, ?_⟩
      rcases decisive with blocks | ignores
      · exact blocks
      · rw [ignores] at blocked
        cases blocked
    · rw [RuleList.lastDecision?_of_uncovered fun rule member covers =>
        present ⟨rule, member, covers⟩] at blocked
      cases blocked
  · intro ⟨last, isLast, blocks⟩
    rw [RuleList.lastDecision?_of_isLast (Or.inl blocks) isLast, blocks]
    rfl

/-- A popup of the top frame is blocked if and only if no override frees it and the last rule about
it is a block for a pattern of a tracker. It is allowed if the plans of all rules whose patterns
match the URL spare popups. -/
theorem decision_topFramePopup (popup : request.IsTopFramePopup) (dataset : Dataset)
    (overrides : Overrides) :
    ((RuleList.verdict (dataset.buildRules overrides) request).decision = .block ↔
        ¬ overrides.Free request ∧
          ∃ last,
            RuleList.IsLast (fun rule => rule.trigger.Covers request)
                (dataset.buildRules {}) last ∧
              last.action = .block ∧
              ∃ placement ∈ dataset.placements,
                last ∈ placement.tracker.groupedRules placement.loadTypes
                  (dataset.ownerEntries placement.tracker)) ∧
      ((∀ placement ∈ dataset.placements, ∀ rule ∈ placement.tracker.ruleList,
          ∀ pattern ∈ rule.pattern,
            Filter.Matches (Filter.ofRulePattern pattern) request.url →
              (Plan.classify rule placement.tracker.isBlocking).sparesPopups = true) →
        (RuleList.verdict (dataset.buildRules overrides) request).decision = .allow) := by
  obtain ⟨whenFree, whenBound⟩ := dataset.decision_buildRules overrides request
  by_cases free : overrides.Free request
  · simp [whenFree free, free]
  · rw [whenBound free]
    constructor
    · rw [blocks_buildRules_iff_exists_isLast]
      constructor
      · intro ⟨last, isLast, blocks⟩
        obtain ⟨placement, member, grouped⟩ := exists_isLast_groupedRules popup isLast blocks
        exact ⟨free, last, isLast, blocks, placement, member,
          RuleList.mem_distinct.mp grouped.mem⟩
      · intro ⟨_, last, isLast, blocks, _⟩
        exact ⟨last, isLast, blocks⟩
    · intro spares
      cases decided : (RuleList.verdict (dataset.buildRules {}) request).decision with
      | allow => rfl
      | block =>
          obtain ⟨last, isLast, blocks⟩ := blocks_buildRules_iff_exists_isLast.mp decided
          obtain ⟨placement, member, grouped⟩ := exists_isLast_groupedRules popup isLast blocks
          have decides := RuleList.lastDecision?_of_isLast (Or.inl blocks) grouped
          rw [blocks] at decides
          exact absurd decides
            (Tracker.lastDecision?_groupedRules_ne_block popup (spares placement member) _ _)

/-- Two trackers that block by default, one with a rule for scripts and one with a rule for
everything. -/
def scriptsAndAll : Dataset where
  trackers :=
    ⟨[("ad.com",
      { domain := some "ad.com"
        treatment := some .block
        rules := some
          [{ pattern := some "http://ad\\.com/a"
             options := some { types := some ["script"] } }] }),
      ("all.com",
      { domain := some "all.com"
        treatment := some .block
        rules := some [{ pattern := some "http://all\\.com/a" }] })],
      List.pairwise_pair.mpr (by decide)⟩
  entities := ∅
  domains := ∅
  cnames := none

theorem decision_topFramePopup_on_scripts :
    (RuleList.verdict (scriptsAndAll.buildRules {})
      { url := "http://ad.com/a", page := "http://shop.com/", resourceType := some .popup,
        loadContext := some .topFrame }).decision = .allow := by
  have popup : Request.IsTopFramePopup
      { url := "http://ad.com/a", page := "http://shop.com/", resourceType := some .popup,
        loadContext := some .topFrame } := by
    decide
  apply (decision_topFramePopup popup scriptsAndAll {}).2
  decide +kernel

/-- The block for everything comes behind the exemption of its tracker. -/
theorem blocks_topFramePopup_on_all :
    Request.IsTopFramePopup
        { url := "http://all.com/a", page := "http://shop.com/", resourceType := some .popup,
          loadContext := some .topFrame } ∧
      (RuleList.verdict (scriptsAndAll.buildRules {})
        { url := "http://all.com/a", page := "http://shop.com/", resourceType := some .popup,
          loadContext := some .topFrame }).decision = .block := by
  refine ⟨by decide, ?_⟩
  rw [RuleList.decision_verdict]
  decide +kernel

end Dataset

end ContentBlocking
