import ContentBlocking.Compile.Plan
import ContentBlocking.Proofs.RuleList.Decision
import Mathlib.Logic.Basic
import Mathlib.Tactic.SplitIfs

/-!
# The decision table of tracker rules

A tracker rule says in terms of its options, its exceptions and its action what happens to the
requests for its URLs. `TrackerRule.decisionAfter` is that table. The group of content-blocker rules
that the plan of the rule emits decides by it, whatever has been decided by the rules before the
group.
-/

namespace ContentBlocking

/-! ## The table -/

namespace Request

/-- The page of the request belongs to the owner, whose domains are listed. -/
def IsFromOwner (request : Request) (ownerDomains : Option (List String)) : Prop :=
  ∃ entries ∈ ownerDomains, request.IsListed entries

instance (request : Request) (ownerDomains : Option (List String)) :
    Decidable (request.IsFromOwner ownerDomains) :=
  inferInstanceAs (Decidable (∃ entries ∈ ownerDomains, request.IsListed entries))

/-- The request may be for a popup of the top frame: it is known to be for a popup, and not known to
come from another frame. -/
def IsTopFramePopup (request : Request) : Prop :=
  request.resourceType = some .popup ∧
    ∀ known ∈ request.loadContext, known = LoadContext.topFrame

instance (request : Request) : Decidable request.IsTopFramePopup :=
  inferInstanceAs (Decidable (_ ∧ ∀ known ∈ request.loadContext, known = LoadContext.topFrame))

end Request

/-- The restriction admits the request: its domains are absent or list the page after stars, and its
tags are absent or one of them stands for the resource type. -/
def Restriction.Admits (restriction : Restriction) (request : Request) : Prop :=
  (∀ domains ∈ restriction.domains, request.IsListed (Filter.wildcards domains)) ∧
    ∀ tags ∈ restriction.types,
      ∃ known ∈ request.resourceType, ∃ tag ∈ tags, ResourceType.ofTag? tag = some known

instance (restriction : Restriction) (request : Request) :
    Decidable (restriction.Admits request) :=
  inferInstanceAs (Decidable
    ((∀ domains ∈ restriction.domains, request.IsListed (Filter.wildcards domains)) ∧
      ∀ tags ∈ restriction.types,
        ∃ known ∈ request.resourceType, ∃ tag ∈ tags, ResourceType.ofTag? tag = some known))

namespace TrackerRule

/-- What a rule of a tracker that blocks by default decides after `before` has been decided. -/
def blockingDecision (rule : TrackerRule) (ownerDomains : Option (List String))
    (request : Request) (before : Decision) : Decision :=
  match rule.options, rule.exceptions with
  | some options, some exceptions =>
      if exceptions.Admits request then .allow
      else if options.Admits request then .block
      else .allow
  | options, exceptions =>
      if rule.action = some .ignore then
        if ∀ restriction ∈ options, restriction.Admits request then .allow else before
      else
        match options, exceptions with
        | some options, _ => if options.Admits request then .block else .allow
        | none, some exceptions => if exceptions.Admits request then .allow else before
        | none, none => if request.IsFromOwner ownerDomains then before else .block

/-- What a rule of a tracker that does not block by default decides after `before` has been
decided. -/
def ignoringDecision (rule : TrackerRule) (ownerDomains : Option (List String))
    (request : Request) (before : Decision) : Decision :=
  let outsideOwner : Decision :=
    if request.IsFromOwner ownerDomains then before else .block
  if rule.action = some .ignore then
    if ∀ restriction ∈ rule.options, restriction.Admits request then .allow else outsideOwner
  else
    match rule.options, rule.exceptions with
    | none, none => if request.IsTopFramePopup then .allow else outsideOwner
    | some options, none => if options.Admits request then outsideOwner else before
    | none, some exceptions => if exceptions.Admits request then .allow else outsideOwner
    | some options, some exceptions =>
        if exceptions.Admits request then .allow
        else if options.Admits request then outsideOwner
        else before

/-- What a tracker rule decides about a request for one of its URLs after `before` has been
decided. -/
def decisionAfter (rule : TrackerRule) (blocks : Bool) (ownerDomains : Option (List String))
    (request : Request) (before : Decision) : Decision :=
  if blocks then rule.blockingDecision ownerDomains request before
  else rule.ignoringDecision ownerDomains request before

end TrackerRule

/-! ## What the rules of a group have in common -/

namespace RuleContext

/-- The request is for a URL of the tracker rule and has one of the load types. -/
structure Reaches (context : RuleContext) (request : Request) : Prop where
  url : Filter.Matches context.urlFilter request.url
  loadType : ∀ known ∈ request.loadType, known ∈ context.loadTypes

instance (context : RuleContext) (request : Request) :
    Decidable (context.Reaches request) :=
  decidable_of_iff
    (Filter.Matches context.urlFilter request.url ∧
      ∀ known ∈ request.loadType, known ∈ context.loadTypes)
    ⟨fun both => ⟨both.1, both.2⟩, fun reaches => ⟨reaches.url, reaches.loadType⟩⟩

theorem not_reaches_iff {context : RuleContext} {request : Request} :
    ¬ context.Reaches request ↔
      (∃ known ∈ request.loadType, known ∉ context.loadTypes) ∨
        ¬ Filter.Matches context.urlFilter request.url := by
  constructor
  · intro unreached
    by_cases matched : Filter.Matches context.urlFilter request.url
    · by_cases excluded : ∃ known ∈ request.loadType, known ∉ context.loadTypes
      · exact Or.inl excluded
      · have included : ∀ known ∈ request.loadType, known ∈ context.loadTypes :=
          fun known member =>
            Decidable.byContradiction fun absent => excluded ⟨known, member, absent⟩
        exact False.elim (unreached ⟨matched, included⟩)
    · exact Or.inr matched
  · intro outside reaches
    rcases outside with ⟨known, member, excluded⟩ | unmatched
    · exact excluded (reaches.loadType known member)
    · exact unmatched reaches.url

/-- A content-blocker rule has the filter and the load types of the context, and blocks or ignores
previous rules. -/
structure Governs (context : RuleContext) (rule : Rule) : Prop where
  urlFilter : rule.trigger.urlFilter = context.urlFilter
  loadType : rule.trigger.loadType = some context.loadTypes
  decisive : rule.IsDecisive

variable {context : RuleContext} {request : Request} {rule : Rule}

theorem Governs.reaches (governs : context.Governs rule)
    (covers : rule.trigger.Covers request) :
    context.Reaches request := by
  constructor
  · rw [← governs.urlFilter]
    exact covers.url
  · exact covers.loadType context.loadTypes governs.loadType

@[simp]
theorem governs_block (context : RuleContext) : context.Governs context.block :=
  ⟨rfl, rfl, Or.inl rfl⟩

@[simp]
theorem governs_blockOn (context : RuleContext) (restriction : Restriction) :
    context.Governs (context.blockOn restriction) :=
  ⟨rfl, rfl, Or.inl rfl⟩

@[simp]
theorem governs_blockOnForeign (context : RuleContext) (restriction : Restriction) :
    context.Governs (context.blockOnForeign restriction) :=
  ⟨rfl, rfl, Or.inl rfl⟩

@[simp]
theorem governs_allow (context : RuleContext) : context.Governs context.allow :=
  ⟨rfl, rfl, Or.inr rfl⟩

@[simp]
theorem governs_allowOn (context : RuleContext) (restriction : Restriction) :
    context.Governs (context.allowOn restriction) :=
  ⟨rfl, rfl, Or.inr rfl⟩

@[simp]
theorem governs_allowWhere (context : RuleContext) (options : Option Restriction) :
    context.Governs (context.allowWhere options) := by
  cases options with
  | none => exact governs_allow context
  | some restriction => exact governs_allowOn context restriction

@[simp]
theorem governs_allowTopFramePopups (context : RuleContext) :
    context.Governs context.allowTopFramePopups :=
  ⟨rfl, rfl, Or.inr rfl⟩

/-- Every rule of a group is governed by the context of the group. -/
theorem governs_of_mem_emit {plan : Plan} (member : rule ∈ context.emit plan) :
    context.Governs rule := by
  have all : ∀ rule ∈ context.emit plan, context.Governs rule := by
    cases plan with
    | blocking plan => cases plan <;> simp [emit, emitBlocking]
    | ignoring plan => cases plan <;> simp [emit, emitIgnoring]
  exact all rule member

/-- A group makes no decision about a request that its context does not reach. -/
theorem lastDecision?_emit_of_not_reaches (plan : Plan)
    (unreached : ¬ context.Reaches request) :
    RuleList.lastDecision? request (context.emit plan) = none := by
  apply RuleList.lastDecision?_of_uncovered
  intro rule member covers
  exact unreached ((governs_of_mem_emit member).reaches covers)

/-! ## What each rule of a group decides -/

/-- Where the context reaches, the other lists of a trigger tell whether it covers the request. -/
theorem Reaches.covers_iff (reaches : context.Reaches request) {trigger : Trigger}
    (urlFilter : trigger.urlFilter = context.urlFilter)
    (loadType : trigger.loadType = some context.loadTypes) :
    trigger.Covers request ↔
      (∀ list ∈ trigger.loadContext, ∀ known ∈ request.loadContext, known ∈ list) ∧
        (∀ list ∈ trigger.unlessDomain, ¬ request.IsListed list) ∧
        (∀ list ∈ trigger.ifDomain, request.IsListed list) ∧
        ∀ list ∈ trigger.resourceType, ∃ known ∈ request.resourceType, known ∈ list := by
  constructor
  · intro covers
    exact ⟨covers.loadContext, covers.unlessDomain, covers.ifDomain, covers.resourceType⟩
  · intro ⟨loadContext, unlessDomain, ifDomain, resourceType⟩
    constructor
    · rw [urlFilter]
      exact reaches.url
    · intro list given
      have same : context.loadTypes = list := Option.some.inj (loadType.symm.trans given)
      rw [← same]
      exact reaches.loadType
    · exact loadContext
    · exact unlessDomain
    · exact ifDomain
    · exact resourceType

/-- A narrowed trigger covers the requests that its restriction admits. -/
theorem Reaches.covers_narrowed_iff (reaches : context.Reaches request)
    (restriction : Restriction) :
    (context.narrowed restriction).Covers request ↔ restriction.Admits request := by
  rw [reaches.covers_iff rfl rfl]
  simp [narrowed, trigger, Restriction.Admits, ResourceType.ofTags]

theorem Reaches.decision?_allow (reaches : context.Reaches request) :
    context.allow.decision? request = some .allow := by
  apply Rule.decision?_of_covers
  apply (reaches.covers_iff rfl rfl).mpr
  simp [allow, Rule.ignorePrevious, trigger]

theorem Reaches.decision?_allowOn (reaches : context.Reaches request)
    (restriction : Restriction) :
    (context.allowOn restriction).decision? request =
      if restriction.Admits request then some .allow else none :=
  if_congr (reaches.covers_narrowed_iff restriction) rfl rfl

theorem Reaches.decision?_allowWhere (reaches : context.Reaches request)
    (options : Option Restriction) :
    (context.allowWhere options).decision? request =
      if ∀ restriction ∈ options, restriction.Admits request then some .allow else none := by
  cases options with
  | none =>
      rw [if_pos (by simp)]
      exact reaches.decision?_allow
  | some restriction =>
      rw [allowWhere, reaches.decision?_allowOn restriction]
      exact if_congr (by simp) rfl rfl

/-- The exemption for popups decides about popups of the top frame only. -/
theorem Reaches.decision?_allowTopFramePopups (reaches : context.Reaches request) :
    context.allowTopFramePopups.decision? request =
      if request.IsTopFramePopup then some .allow else none := by
  apply if_congr _ rfl rfl
  rw [reaches.covers_iff rfl rfl]
  simp [allowTopFramePopups, Rule.ignorePrevious, trigger, Request.IsTopFramePopup, and_comm]

/-- The block of a group leaves the pages of the owner alone. -/
theorem Reaches.decision?_block (reaches : context.Reaches request) :
    context.block.decision? request =
      if request.IsFromOwner context.ownerDomains then none else some .block := by
  have covers :
      context.block.trigger.Covers request ↔ ¬ request.IsFromOwner context.ownerDomains := by
    rw [reaches.covers_iff rfl rfl]
    simp [block, Rule.block, trigger, Request.IsFromOwner]
  rw [← ite_not]
  exact if_congr covers rfl rfl

theorem Reaches.decision?_blockOn (reaches : context.Reaches request)
    (restriction : Restriction) :
    (context.blockOn restriction).decision? request =
      if restriction.Admits request then some .block else none :=
  if_congr (reaches.covers_narrowed_iff restriction) rfl rfl

theorem Reaches.decision?_blockOnForeign (reaches : context.Reaches request)
    (restriction : Restriction) :
    (context.blockOnForeign restriction).decision? request =
      if restriction.Admits request ∧ ¬ request.IsFromOwner context.ownerDomains then
        some .block
      else none := by
  apply if_congr _ rfl rfl
  rw [← reaches.covers_narrowed_iff restriction, reaches.covers_iff rfl rfl,
    reaches.covers_iff rfl rfl]
  simp only [blockOnForeign, Rule.block, Request.IsFromOwner]
  constructor
  · intro ⟨loadContext, foreign, ifDomain, resourceType⟩
    refine ⟨⟨loadContext, by simp [narrowed, trigger], ifDomain, resourceType⟩, ?_⟩
    intro ⟨entries, member, listed⟩
    exact foreign entries member listed
  · intro ⟨⟨loadContext, _, ifDomain, resourceType⟩, foreign⟩
    exact ⟨loadContext, fun entries member listed => foreign ⟨entries, member, listed⟩,
      ifDomain, resourceType⟩

/-! ## What a group decides -/

/-- The group of a rule of a tracker that blocks by default decides by the table. -/
theorem Reaches.decision_emitBlocking (reaches : context.Reaches request)
    (rule : TrackerRule) (before : Decision) :
    (RuleList.lastDecision? request (context.emitBlocking
        (Plan.ofBlocking rule.options rule.exceptions (rule.action = some .ignore)))).getD
          before =
      rule.blockingDecision context.ownerDomains request before := by
  unfold TrackerRule.blockingDecision
  by_cases ignores : rule.action = some .ignore
  · cases rule.options with
    | none =>
        simp only [ignores, decide_true, if_true, Plan.ofBlocking, emitBlocking,
          RuleList.lastDecision?, reaches.decision?_allowWhere]
        split_ifs <;> rfl
    | some options =>
        cases rule.exceptions with
        | none =>
            simp only [ignores, decide_true, if_true, Plan.ofBlocking, emitBlocking,
              RuleList.lastDecision?, reaches.decision?_allowWhere]
            split_ifs <;> rfl
        | some exceptions =>
            simp only [Plan.ofBlocking, emitBlocking, RuleList.lastDecision?,
              reaches.decision?_allow, reaches.decision?_blockOn, reaches.decision?_allowOn]
            split_ifs <;> rfl
  · cases rule.options with
    | none =>
        cases rule.exceptions with
        | none =>
            simp only [ignores, decide_false, if_false, Plan.ofBlocking, emitBlocking,
              RuleList.lastDecision?, reaches.decision?_block]
            split_ifs <;> rfl
        | some exceptions =>
            simp only [ignores, decide_false, if_false, Plan.ofBlocking, emitBlocking,
              RuleList.lastDecision?, reaches.decision?_allowOn]
            split_ifs <;> rfl
    | some options =>
        cases rule.exceptions with
        | none =>
            simp only [ignores, decide_false, if_false, Plan.ofBlocking, emitBlocking,
              RuleList.lastDecision?, reaches.decision?_allow, reaches.decision?_blockOn]
            split_ifs <;> rfl
        | some exceptions =>
            simp only [Plan.ofBlocking, emitBlocking, RuleList.lastDecision?,
              reaches.decision?_allow, reaches.decision?_blockOn, reaches.decision?_allowOn]
            split_ifs <;> rfl

/-- The group of a rule of a tracker that does not block by default decides by the table. -/
theorem Reaches.decision_emitIgnoring (reaches : context.Reaches request)
    (rule : TrackerRule) (before : Decision) :
    (RuleList.lastDecision? request (context.emitIgnoring
        (Plan.ofIgnoring rule.options rule.exceptions (rule.action = some .ignore)))).getD
          before =
      rule.ignoringDecision context.ownerDomains request before := by
  unfold TrackerRule.ignoringDecision
  by_cases ignores : rule.action = some .ignore
  · simp only [ignores, decide_true, if_true, Plan.ofIgnoring, emitIgnoring,
      RuleList.lastDecision?, reaches.decision?_block, reaches.decision?_allowWhere]
    split_ifs <;> rfl
  · cases rule.options with
    | none =>
        cases rule.exceptions with
        | none =>
            simp only [ignores, decide_false, if_false, Plan.ofIgnoring, emitIgnoring,
              RuleList.lastDecision?, reaches.decision?_block,
              reaches.decision?_allowTopFramePopups]
            split_ifs <;> rfl
        | some exceptions =>
            simp only [ignores, decide_false, if_false, Plan.ofIgnoring, emitIgnoring,
              RuleList.lastDecision?, reaches.decision?_block, reaches.decision?_allowOn]
            split_ifs <;> rfl
    | some options =>
        cases rule.exceptions with
        | none =>
            simp only [ignores, decide_false, if_false, Plan.ofIgnoring, emitIgnoring,
              RuleList.lastDecision?, reaches.decision?_blockOnForeign]
            split_ifs <;> first | rfl | simp_all
        | some exceptions =>
            simp only [ignores, decide_false, if_false, Plan.ofIgnoring, emitIgnoring,
              RuleList.lastDecision?, reaches.decision?_blockOnForeign,
              reaches.decision?_allowOn]
            split_ifs <;> first | rfl | simp_all

/-- A group decides what the table says, for each of the ten plans. -/
theorem Reaches.decision_emit (reaches : context.Reaches request)
    (rule : TrackerRule) (blocks : Bool) (before : Decision) :
    (RuleList.lastDecision? request (context.emit (Plan.classify rule blocks))).getD before =
      rule.decisionAfter blocks context.ownerDomains request before := by
  cases blocks with
  | true => exact reaches.decision_emitBlocking rule before
  | false => exact reaches.decision_emitIgnoring rule before

end RuleContext

/-- A tracker rule with a pattern has a group for any load types and owner. The group leaves what
was decided before as it is for requests of other load types and for URLs that the filter of the
pattern does not match. For all others it decides by the table. -/
theorem TrackerRule.decision_after_group {rule : TrackerRule} {pattern : String}
    (hasPattern : rule.pattern = some pattern) (blocks : Bool) (loadTypes : List LoadType)
    (ownerDomains : Option (List String)) :
    ∃ context, RuleContext.ofRule? rule loadTypes ownerDomains = some context ∧
      ∀ (earlier : List Rule) (request : Request),
        (RuleList.verdict (earlier ++ context.emit (Plan.classify rule blocks))
            request).decision =
          if (∃ known ∈ request.loadType, known ∉ loadTypes) ∨
              ¬ Filter.Matches (Filter.ofRulePattern pattern) request.url then
            (RuleList.verdict earlier request).decision
          else
            rule.decisionAfter blocks ownerDomains request
              (RuleList.verdict earlier request).decision := by
  let context : RuleContext := ⟨Filter.ofRulePattern pattern, loadTypes, ownerDomains⟩
  refine ⟨context, by rw [RuleContext.ofRule?, hasPattern]; rfl, ?_⟩
  intro earlier request
  rw [RuleList.decision_verdict_append]
  by_cases reaches : context.Reaches request
  · have included := mt RuleContext.not_reaches_iff.mpr (not_not_intro reaches)
    rw [if_neg included]
    exact reaches.decision_emit rule blocks (RuleList.verdict earlier request).decision
  · rw [if_pos (RuleContext.not_reaches_iff.mp reaches),
      RuleContext.lastDecision?_emit_of_not_reaches (Plan.classify rule blocks) reaches]
    rfl

/-- A rule that blocks images on the pages of a shop. None of the tags of its exceptions stands for
a resource type. -/
def TrackerRule.imagesOnShop : TrackerRule where
  pattern := some "http://ad\\.com"
  options := some { domains := some ["shop.com"], types := some ["image", "video"] }
  exceptions := some { types := some ["video"] }

theorem TrackerRule.decision_after_group_on_shop :
    ∃ context,
      RuleContext.ofRule? imagesOnShop [.thirdParty] (some ["*ad.com"]) = some context ∧
        (RuleList.verdict ([] ++ context.emit (Plan.classify imagesOnShop true))
            { url := "http://ad.com/a", page := "http://www.shop.com/",
              resourceType := some .image }).decision = .block := by
  have pattern : imagesOnShop.pattern = some "http://ad\\.com" := rfl
  obtain ⟨context, found, decides⟩ :=
    TrackerRule.decision_after_group pattern true [.thirdParty] (some ["*ad.com"])
  refine ⟨context, found, ?_⟩
  rw [decides]
  decide +kernel

end ContentBlocking
