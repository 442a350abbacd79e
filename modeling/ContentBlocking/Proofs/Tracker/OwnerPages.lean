import ContentBlocking.Proofs.Plan.EmittedRules
import ContentBlocking.Proofs.Tracker.Rules

/-!
# Pages of the owner

Nearly all blocks exempt the pages of the owner. Only where a tracker that blocks by default has a
rule with options may its plan block without regard to the owner. Without such rules a tracker never
blocks anything on the pages of its owner, neither on its own domain nor on an alias.
-/

namespace ContentBlocking

variable {request : Request}

/-! ## Plans that exempt the owner -/

/-- All blocks of the plan exempt the pages of the owner. -/
def Plan.exemptsOwner : Plan → Bool
  | .blocking (.narrowedWithExceptions _ _) => false
  | .blocking (.ignored _) => true
  | .blocking (.narrowed _) => false
  | .blocking (.excepted _) => true
  | .blocking .plain => true
  | .ignoring _ => true

/-- Options of a tracker that blocks by default do no harm if they say where to ignore. -/
theorem Plan.exemptsOwner_classify {rule : TrackerRule} {blocks : Bool}
    (ignores : blocks = true → rule.options ≠ none →
      rule.action = some .ignore ∧ rule.exceptions = none) :
    (classify rule blocks).exemptsOwner = true := by
  cases blocks with
  | false => rfl
  | true =>
      rcases rule with ⟨pattern, surrogate, action, options, exceptions⟩
      cases options with
      | none =>
          by_cases ignore : action = some .ignore
          · simp [classify, ofBlocking, ignore, exemptsOwner]
          · cases exceptions <;> simp [classify, ofBlocking, ignore, exemptsOwner]
      | some options =>
          obtain ⟨ignore, noExceptions⟩ := ignores rfl (Option.some_ne_none options)
          simp only at ignore noExceptions
          simp [classify, ofBlocking, ignore, noExceptions, exemptsOwner]

namespace RuleContext

variable {context : RuleContext} {plan : Plan} {rule : Rule}

/-- The blocks of a plan that exempts the owner leave the pages of the owner alone. -/
theorem unlessDomain_of_exemptsOwner (exempts : plan.exemptsOwner = true)
    (member : rule ∈ context.emit plan) (blocks : rule.action = .block) :
    rule.trigger.unlessDomain = context.ownerDomains := by
  have allowWhere_action : ∀ options : Option Restriction,
      (context.allowWhere options).action = .ignorePreviousRules := by
    intro options
    cases options <;> rfl
  have all : ∀ rule ∈ context.emit plan, rule.action = .block →
      rule.trigger.unlessDomain = context.ownerDomains := by
    cases plan with
    | blocking plan =>
        cases plan with
        | narrowedWithExceptions options exceptions => cases exempts
        | narrowed options => cases exempts
        | ignored options => simp [emit, emitBlocking, allowWhere_action]
        | excepted exceptions => simp [emit, emitBlocking, allowOn, Rule.ignorePrevious]
        | plain => simp [emit, emitBlocking, block, Rule.block]
    | ignoring plan =>
        cases plan <;>
          simp [emit, emitIgnoring, block, blockOnForeign, allowOn, allowTopFramePopups,
            Rule.block, Rule.ignorePrevious, allowWhere_action]
  exact all rule member blocks

/-- A block that exempts the owner does not cover requests from the pages of the owner. -/
theorem decision?_ne_block_of_exemptsOwner (exempts : plan.exemptsOwner = true)
    (member : rule ∈ context.emit plan) (fromOwner : request.IsFromOwner context.ownerDomains) :
    rule.decision? request ≠ some .block := by
  intro blocked
  have covers := Rule.covers_of_decision? blocked
  rw [Rule.decision?_of_covers covers] at blocked
  have blocks : rule.action = .block := by
    cases action : rule.action with
    | block => rfl
    | ignorePreviousRules =>
        rw [action] at blocked
        cases blocked
    | cssDisplayNone selector =>
        rw [action] at blocked
        cases blocked
  obtain ⟨entries, isList, listed⟩ := fromOwner
  have exempted : entries ∈ rule.trigger.unlessDomain := by
    rw [unlessDomain_of_exemptsOwner exempts member blocks]
    exact isList
  exact covers.unlessDomain entries exempted listed

end RuleContext

/-! ## Trackers that exempt the owner -/

namespace Dataset

variable {dataset : Dataset} {tracker : Tracker}

/-- A tracker blocks nothing on the pages of its owner, unless it blocks by default and a rule with
options does more than ignore. -/
theorem decision_compileTracker_of_fromOwner
    (fromOwner : request.IsFromOwner (dataset.ownerEntries tracker))
    (ignores : tracker.isBlocking = true → ∀ rule ∈ tracker.ruleList, rule.options ≠ none →
      rule.action = some .ignore ∧ rule.exceptions = none)
    (loadTypes : List LoadType) :
    (RuleList.verdict (dataset.compileTracker tracker loadTypes).rules request).decision =
      .allow := by
  rw [RuleList.decision_verdict]
  cases decided : RuleList.lastDecision? request
      (dataset.compileTracker tracker loadTypes).rules with
  | none => rfl
  | some decision =>
      obtain ⟨rule, member, decides⟩ := RuleList.exists_of_lastDecision? decided
      obtain ⟨filter, plan, emitted, origin⟩ := exists_emit_of_mem_compileTracker member
      have exempts : plan.exemptsOwner = true := by
        rcases origin with rfl | ⟨source, listed, rfl⟩
        · rfl
        · exact Plan.exemptsOwner_classify fun blocks => ignores blocks source listed
      cases decision with
      | allow => rfl
      | block =>
          exact absurd decides
            (RuleContext.decision?_ne_block_of_exemptsOwner exempts emitted fromOwner)

/-- A page with a domain of the owner is a page of the owner. -/
theorem isFromOwner_of_relatedDomains
    (family : ∃ domains ∈ dataset.relatedDomains? tracker,
      ∃ domain ∈ request.pageDomains, domain ∈ domains) :
    request.IsFromOwner (dataset.ownerEntries tracker) := by
  obtain ⟨domains, related, domain, isPageDomain, member⟩ := family
  refine ⟨Filter.wildcards domains, Option.mem_map_of_mem _ related, ?_⟩
  exact Request.isListed_wildcards.mpr ⟨domain, isPageDomain, Or.inl member⟩

/-- A tracker allows all requests from pages with a domain of its owner, on its own domain and on
any alias, if it does not block by default or its rules with options say where to ignore. -/
theorem allows_compileTracker_of_family
    (family : ∃ domains ∈ dataset.relatedDomains? tracker,
      ∃ domain ∈ request.pageDomains, domain ∈ domains)
    (ignores : tracker.isBlocking = true → ∀ rule ∈ tracker.ruleList, rule.options ≠ none →
      rule.action = some .ignore ∧ rule.exceptions = none)
    (loadTypes : List LoadType) :
    (RuleList.verdict (dataset.compileTracker tracker loadTypes).rules request).decision =
        .allow ∧
      ∀ name,
        (RuleList.verdict (dataset.compileTracker (tracker.withDomain name) loadTypes).rules
          request).decision = .allow := by
  have fromOwner := isFromOwner_of_relatedDomains family
  constructor
  · exact decision_compileTracker_of_fromOwner fromOwner ignores loadTypes
  · -- On the alias the tracker has the same owner and the same rules.
    intro name
    have sameOwner : dataset.ownerEntries (tracker.withDomain name) =
        dataset.ownerEntries tracker := rfl
    apply decision_compileTracker_of_fromOwner
    · rw [sameOwner]
      exact fromOwner
    · exact ignores

/-- A tracker of a shop. One of its rules says where to ignore, the other one blocks. -/
def shopTracker : Tracker where
  domain := some "ad.com"
  treatment := some .block
  owner := some { name := some "Corner Shop" }
  rules := some
    [{ pattern := some "http://ad\\.com/b"
       action := some .ignore
       options := some { types := some ["script"] } },
     { pattern := some "http://ad\\.com/a" }]
  resolvedOwner := some "Corner Shop"

def shopDataset : Dataset where
  trackers := ⟨[("ad.com", shopTracker)], List.pairwise_singleton _ _⟩
  entities := ⟨[("Corner Shop", { domains := some ["shop.com"] })], List.pairwise_singleton _ _⟩
  domains := ∅
  cnames := none

/-- What is blocked on the pages of others is allowed below the domain of the shop. -/
theorem allows_shopTracker_below_shop :
    (RuleList.verdict (shopDataset.compileTracker shopTracker [.thirdParty]).rules
        { url := "http://ad.com/a", page := "http://www.shop.com/" }).decision = .allow ∧
      (RuleList.verdict (shopDataset.compileTracker shopTracker [.thirdParty]).rules
        { url := "http://ad.com/a", page := "http://www.news.com/" }).decision = .block := by
  constructor
  · have family : ∃ domains ∈ shopDataset.relatedDomains? shopTracker,
        ∃ domain ∈ Request.pageDomains
          { url := "http://ad.com/a", page := "http://www.shop.com/" }, domain ∈ domains := by
      decide
    have ignores : shopTracker.isBlocking = true → ∀ rule ∈ shopTracker.ruleList,
        rule.options ≠ none → rule.action = some .ignore ∧ rule.exceptions = none := by
      decide
    exact (allows_compileTracker_of_family family ignores [.thirdParty]).1
  · have inOrder :
        (shopTracker.ruleGroups [.thirdParty] (shopDataset.ownerEntries shopTracker)).Pairwise
          (fun left right => (decide (right.length ≤ left.length)) = true) := by
      decide
    rw [RuleList.decision_verdict, compileTracker, Tracker.groupedRules,
      List.mergeSort_of_pairwise inOrder]
    decide +kernel

end Dataset

end ContentBlocking
