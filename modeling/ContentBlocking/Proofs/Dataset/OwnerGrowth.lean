import ContentBlocking.Proofs.Dataset.Placements
import ContentBlocking.Proofs.Override.Precedence
import ContentBlocking.Proofs.Tracker.OwnerPages

/-!
# Owners with more domains

If an owner gets more domains, its trackers exempt more pages and are otherwise compiled as before.
The groups keep their lengths, so they keep their order, and equal rules stay equal, different ones
different, so the same repetitions are left out. The new list is the old one with other exemptions.
A rule in it may leave out a block but makes every other decision as before, and so does the list.
-/

namespace ContentBlocking

variable {request : Request} {before after : Option (List String)}

/-! ## Rules with other exemptions -/

/-- The rule with the given entries in place of the ones it exempts. -/
def Rule.exempting (entries : Option (List String)) (rule : Rule) : Rule :=
  { rule with
    trigger :=
      { rule.trigger with
        unlessDomain := rule.trigger.unlessDomain.bind fun _ => entries } }

theorem isSome_eq_of_larger (larger : Option.Rel (· ⊆ ·) before after) :
    before.isSome = after.isSome := by
  cases larger <;> rfl

/-- A rule that exempts what it did before is the rule that it was. -/
theorem Rule.exempting_exempting {rule : Rule} (alike : before.isSome = after.isSome)
    (exempts : rule.trigger.unlessDomain = none ∨ rule.trigger.unlessDomain = before) :
    (rule.exempting after).exempting before = rule := by
  have restored :
      ((rule.trigger.unlessDomain.bind fun _ => after).bind fun _ => before) =
        rule.trigger.unlessDomain := by
    rcases exempts with none | all
    · rw [none]
      rfl
    · rw [all]
      cases before with
      | none => rfl
      | some entries =>
          obtain ⟨others, rfl⟩ := Option.isSome_iff_exists.mp alike.symm
          rfl
  rw [exempting, exempting, restored]

namespace RuleContext

variable {filter : String} {loadTypes : List LoadType}

/-- For an owner with other domains a plan emits the same rules with other exemptions. -/
theorem emit_exempting (alike : before.isSome = after.isSome) (plan : Plan) :
    (RuleContext.mk filter loadTypes after).emit plan =
      ((RuleContext.mk filter loadTypes before).emit plan).map (Rule.exempting after) := by
  have exempted : after = before.bind fun _ => after := by
    cases before with
    | none => exact Option.isNone_iff_eq_none.mp (Option.isSome_eq_false_iff.mp alike.symm)
    | some entries => rfl
  have block : (RuleContext.mk filter loadTypes after).block =
      (RuleContext.mk filter loadTypes before).block.exempting after :=
    congrArg (fun entries => (RuleContext.mk filter loadTypes entries).block) exempted
  have blockOnForeign : ∀ restriction,
      (RuleContext.mk filter loadTypes after).blockOnForeign restriction =
        ((RuleContext.mk filter loadTypes before).blockOnForeign restriction).exempting after :=
    fun restriction =>
      congrArg
        (fun entries => (RuleContext.mk filter loadTypes entries).blockOnForeign restriction)
        exempted
  have allowWhere : ∀ options,
      (RuleContext.mk filter loadTypes after).allowWhere options =
        ((RuleContext.mk filter loadTypes before).allowWhere options).exempting after := by
    intro options
    cases options <;> rfl
  -- All other rules exempt nothing, so they are the same by definition.
  cases plan with
  | blocking plan =>
      cases plan <;> simp only [emit, emitBlocking, block, allowWhere] <;> rfl
  | ignoring plan =>
      cases plan <;> simp only [emit, emitIgnoring, block, blockOnForeign, allowWhere] <;> rfl

end RuleContext

/-! ## Trackers with other exemptions -/

namespace Tracker

variable {tracker : Tracker} {loadTypes : List LoadType}

/-- The default rules depend on the pages of the owner only through what their block exempts. -/
theorem defaultRules_exempting (alike : before.isSome = after.isSome) :
    tracker.defaultRules loadTypes after =
      (tracker.defaultRules loadTypes before).map (Rule.exempting after) := by
  rw [defaultRules, defaultRules]
  by_cases blocks : tracker.isBlocking
  · rw [if_pos blocks, if_pos blocks]
    cases tracker.domain with
    | none => rfl
    | some domain => exact RuleContext.emit_exempting alike (.ignoring .plain)
  · rw [if_neg blocks, if_neg blocks]
    rfl

/-- Other exemptions change neither the order of the groups nor which rules are equal, since all of
them are the same. -/
theorem distinct_groupedRules_exempting (alike : before.isSome = after.isSome) :
    RuleList.distinct (tracker.groupedRules loadTypes after) =
      (RuleList.distinct (tracker.groupedRules loadTypes before)).map (Rule.exempting after) := by
  apply distinct_groupedRules_map (Rule.exempting before)
  · intro filter plan
    exact RuleContext.emit_exempting alike plan
  · intro rule member
    obtain ⟨_, _, _, _, emitted⟩ := exists_emit_of_mem_groupedRules member
    exact Rule.exempting_exempting alike
      ((RuleContext.unlessDomain_of_mem_emit emitted).imp_right And.right)

end Tracker

/-- When the owner gets other pages, a tracker keeps its rules but for the pages that they exempt.
-/
theorem Dataset.rules_compileTracker_exempting {dataset other : Dataset} {tracker : Tracker}
    (alike : (dataset.ownerEntries tracker).isSome = (other.ownerEntries tracker).isSome)
    (loadTypes : List LoadType) :
    (other.compileTracker tracker loadTypes).rules =
      (dataset.compileTracker tracker loadTypes).rules.map
        (Rule.exempting (other.ownerEntries tracker)) := by
  simp only [compileTracker]
  rw [Tracker.defaultRules_exempting alike, Tracker.distinct_groupedRules_exempting alike,
    List.map_append]

/-! ## Decisions but for blocks -/

/-- What was decided is still decided, unless it was a block. -/
def Decision.Eases (before after : Option Decision) : Prop :=
  before = some .block ∨ after = before

namespace Decision

theorem Eases.refl (decision : Option Decision) : Eases decision decision :=
  Or.inr rfl

/-- What is decided first counts where nothing else is decided. -/
theorem Eases.or {late lateAfter early earlyAfter : Option Decision}
    (lateEases : Eases late lateAfter) (earlyEases : Eases early earlyAfter) :
    Eases (late.or early) (lateAfter.or earlyAfter) := by
  rcases lateEases with blocks | same
  · rw [blocks]
    exact Or.inl rfl
  · rw [same]
    cases late with
    | none => exact earlyEases
    | some decision => exact Eases.refl (some decision)

end Decision

theorem Request.IsListed.mono {entries others : List String} (larger : entries ⊆ others)
    (listed : request.IsListed entries) :
    request.IsListed others := by
  obtain ⟨domain, isPageDomain, entry, member, named⟩ := listed
  exact ⟨domain, isPageDomain, entry, larger member, named⟩

/-- With more exemptions a rule may block less, and it decides everything else as before. -/
theorem Rule.eases_exempting {rule : Rule} (larger : Option.Rel (· ⊆ ·) before after)
    (exempts : rule.trigger.unlessDomain = none ∨
      rule.action = .block ∧ rule.trigger.unlessDomain = before) :
    Decision.Eases (rule.decision? request) ((rule.exempting after).decision? request) := by
  rcases exempts with none | ⟨blocks, all⟩
  · have same : rule.exempting after = rule := by
      rw [exempting, none, Option.bind_none, ← none]
    rw [same]
    exact Decision.Eases.refl _
  · by_cases covers : rule.trigger.Covers request
    · apply Or.inl
      rw [Rule.decision?_of_covers covers, blocks]
      rfl
    · apply Or.inr
      rw [Rule.decision?_of_not_covers covers]
      apply Rule.decision?_of_not_covers
      intro coversAfter
      apply covers
      refine ⟨coversAfter.url, coversAfter.loadType, coversAfter.loadContext, ?_,
        coversAfter.ifDomain, coversAfter.resourceType⟩
      intro entries given listed
      rw [all] at given
      cases larger with
      | none => cases given
      | some subset =>
          cases given
          have exempted := coversAfter.unlessDomain
          simp only [exempting, all, Option.bind_some] at exempted
          exact exempted _ rfl (listed.mono subset)

namespace RuleList

/-- Decisions ease for a whole list if they ease for each of its pieces. -/
theorem eases_flatMap {α : Type} {items : List α} {rulesBefore rulesAfter : α → List Rule}
    (each : ∀ item ∈ items,
      Decision.Eases (lastDecision? request (rulesBefore item))
        (lastDecision? request (rulesAfter item))) :
    Decision.Eases (lastDecision? request (items.flatMap rulesBefore))
      (lastDecision? request (items.flatMap rulesAfter)) := by
  induction items with
  | nil => exact Decision.Eases.refl none
  | cons item rest inductionHypothesis =>
      obtain ⟨first, others⟩ := List.forall_mem_cons.mp each
      rw [List.flatMap_cons, List.flatMap_cons, lastDecision?_append, lastDecision?_append]
      exact (inductionHypothesis others).or first

theorem eases_map {rules : List Rule} {change : Rule → Rule}
    (each : ∀ rule ∈ rules,
      Decision.Eases (rule.decision? request) ((change rule).decision? request)) :
    Decision.Eases (lastDecision? request rules) (lastDecision? request (rules.map change)) := by
  have single : ∀ rule ∈ rules,
      Decision.Eases (lastDecision? request [rule]) (lastDecision? request [change rule]) :=
    each
  have eases := eases_flatMap single
  rw [List.flatMap_singleton', ← List.map_eq_flatMap] at eases
  exact eases

end RuleList

/-! ## Datasets with larger owners -/

namespace Dataset

variable {dataset other : Dataset} {tracker : Tracker}

/-- When the owner of a tracker gets more pages, the rules of the tracker block no more than before.
-/
theorem eases_compileTracker
    (larger : Option.Rel (· ⊆ ·) (dataset.ownerEntries tracker) (other.ownerEntries tracker))
    (loadTypes : List LoadType) :
    Decision.Eases
      (RuleList.lastDecision? request (dataset.compileTracker tracker loadTypes).rules)
      (RuleList.lastDecision? request (other.compileTracker tracker loadTypes).rules) := by
  rw [rules_compileTracker_exempting (isSome_eq_of_larger larger)]
  apply RuleList.eases_map
  intro rule member
  obtain ⟨_, _, emitted, _⟩ := exists_emit_of_mem_compileTracker member
  exact Rule.eases_exempting larger (RuleContext.unlessDomain_of_mem_emit emitted)

/-- Where all owners keep their domains, a rule list may block less, and it decides everything else
as before. -/
theorem eases_buildRules (trackers : other.trackers = dataset.trackers)
    (cnames : other.cnames = dataset.cnames)
    (larger : ∀ tracker,
      Option.Rel (· ⊆ ·) (dataset.ownerEntries tracker) (other.ownerEntries tracker)) :
    Decision.Eases (RuleList.lastDecision? request (dataset.buildRules {}))
      (RuleList.lastDecision? request (other.buildRules {})) := by
  rw [buildRules_eq_flatMap, buildRules_eq_flatMap, placements_congr trackers cnames]
  apply RuleList.eases_flatMap
  intro placement _
  exact eases_compileTracker (larger placement.tracker) placement.loadTypes

/-- The dataset in which an entity has the given domains. -/
def withEntityDomains (dataset : Dataset) (name : String) (entity : Entity)
    (domains : List String) : Dataset :=
  { dataset with
    entities := dataset.entities.insert name { entity with domains := some domains } }

/-- When an entity gets more domains, every tracker keeps the pages of its owner. -/
theorem ownerEntries_withEntityDomains {name : String} {entity : Entity}
    {domains grown : List String} (found : dataset.entities.get? name = some entity)
    (present : entity.domains = some domains) (grows : domains ⊆ grown) (tracker : Tracker) :
    Option.Rel (· ⊆ ·) (dataset.ownerEntries tracker)
      ((dataset.withEntityDomains name entity grown).ownerEntries tracker) := by
  have refl : ∀ entries : Option (List String), Option.Rel (· ⊆ ·) entries entries := by
    intro entries
    cases entries with
    | none => exact Option.Rel.none
    | some entries => exact Option.Rel.some (List.Subset.refl entries)
  cases owner : tracker.resolvedOwner with
  | none =>
      simp only [ownerEntries, relatedDomains?, entityOf?, owner]
      exact Option.Rel.none
  | some ownerName =>
      simp only [ownerEntries, relatedDomains?, entityOf?, owner, withEntityDomains,
        Option.bind_some, SortedMap.get?_insert]
      by_cases same : ownerName = name
      · subst same
        rw [if_pos rfl, found]
        simp only [Option.bind_some, present, Option.map_some]
        exact Option.Rel.some (List.map_subset Filter.wildcard grows)
      · rw [if_neg same]
        exact refl _

/-- If a request is allowed, it stays allowed when an owner gets more domains, whatever the
overrides are. -/
theorem allows_buildRules_of_grown_owner {name : String} {entity : Entity}
    {domains grown : List String} (found : dataset.entities.get? name = some entity)
    (present : entity.domains = some domains) (grows : domains ⊆ grown) (overrides : Overrides)
    (allowed : (RuleList.verdict (dataset.buildRules overrides) request).decision = .allow) :
    (RuleList.verdict ((dataset.withEntityDomains name entity grown).buildRules overrides)
      request).decision = .allow := by
  obtain ⟨whenFree, whenBound⟩ := dataset.decision_buildRules overrides request
  obtain ⟨grownWhenFree, grownWhenBound⟩ :=
    (dataset.withEntityDomains name entity grown).decision_buildRules overrides request
  by_cases free : overrides.Free request
  · exact grownWhenFree free
  · rw [whenBound free, RuleList.decision_verdict] at allowed
    rw [grownWhenBound free, RuleList.decision_verdict]
    have eases : Decision.Eases (RuleList.lastDecision? request (dataset.buildRules {}))
        (RuleList.lastDecision? request
          ((dataset.withEntityDomains name entity grown).buildRules {})) :=
      eases_buildRules rfl rfl (ownerEntries_withEntityDomains found present grows)
    rcases eases with blocks | same
    · rw [blocks] at allowed
      cases allowed
    · rw [same]
      exact allowed

/-- What is allowed on the pages of a shop stays allowed when the shop gets another domain. -/
theorem allows_shopDataset_of_grown_shop :
    (RuleList.verdict (shopDataset.buildRules {})
        { url := "http://ad.com/a", page := "http://www.shop.com/" }).decision = .allow ∧
      (RuleList.verdict
        ((shopDataset.withEntityDomains "Corner Shop" { domains := some ["shop.com"] }
          ["news.com", "shop.com"]).buildRules {})
        { url := "http://ad.com/a", page := "http://www.shop.com/" }).decision = .allow := by
  have onePlacement : shopDataset.buildRules {} =
      (shopDataset.compileTracker shopTracker trackerLoadTypes).rules := by
    rw [buildRules_eq_flatMap]
    exact List.flatMap_singleton shopDataset.placedRules ⟨shopTracker, trackerLoadTypes⟩
  have fromShop : Request.IsFromOwner { url := "http://ad.com/a", page := "http://www.shop.com/" }
      (shopDataset.ownerEntries shopTracker) := by
    decide
  have allowed : (RuleList.verdict (shopDataset.buildRules {})
      { url := "http://ad.com/a", page := "http://www.shop.com/" }).decision = .allow := by
    rw [onePlacement]
    exact decision_compileTracker_of_fromOwner fromShop (by decide) trackerLoadTypes
  have grows : ["shop.com"] ⊆ ["news.com", "shop.com"] := by
    decide
  exact ⟨allowed, allows_buildRules_of_grown_owner rfl rfl grows {} allowed⟩

end Dataset

end ContentBlocking
